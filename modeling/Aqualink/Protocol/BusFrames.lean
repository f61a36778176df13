import Aqualink.Jandy.Frame
import Aqualink.Pentair.Frame
import Aqualink.Protocol.DecodeLoop

/-!
# Frames of both protocols in one buffer

The decode loop on a buffer that holds complete frames and then, perhaps, the
beginning of one more.

The Pentair generator runs first and finds its preamble anywhere in the buffer,
so all complete Pentair frames are lifted out, in their order, before the first
Jandy frame is looked at.  If the buffer ends in the beginning of a Pentair frame
the loop stops there and the Jandy frames are held back; otherwise they follow, in
their order.

`lift` is the resulting order.  It is the order on the wire exactly when no
Jandy frame is directly followed by a Pentair frame (`lift_eq_self_iff`).
-/

namespace AqualinkAutomate.Protocol

open General Jandy Pentair List

/-- A frame of either protocol. -/
inductive BusFrame where
  | jandy (frame : JandyFrame)
  | pentair (frame : PentairFrame)

namespace BusFrame

def wire : BusFrame → List UInt8
  | jandy f => f.wire
  | pentair f => f.wire

def message : BusFrame → ProtocolMessage
  | jandy f => .jandy f.message
  | pentair f => .pentair f.message

/-- How many bytes of the frame its generator needs to see before it waits for
the rest: the start sequence, or the preamble. -/
def markerLength : BusFrame → ℕ
  | jandy _ => packetStartSequence.length
  | pentair _ => framePreamble.length

/-- The message class accepts the contents, and a Jandy frame does not hold a
Pentair preamble. -/
def Admissible : BusFrame → Prop
  | jandy f => f.Accepted ∧ ¬ framePreamble <:+: f.wire
  | pentair f => f.Accepted

instance (f : BusFrame) : Decidable f.Admissible :=
  match f with
  | jandy f => inferInstanceAs (Decidable (f.Accepted ∧ ¬ framePreamble <:+: f.wire))
  | pentair f => inferInstanceAs (Decidable f.Accepted)

def isPentair : BusFrame → Bool
  | jandy _ => false
  | pentair _ => true

theorem wire_ne_nil (f : BusFrame) : f.wire ≠ [] := by
  cases f with
  | jandy f =>
    rw [wire, f.wire_eq]
    simp
  | pentair f =>
    rw [wire, f.wire_eq]
    simp

end BusFrame

/-- The bytes of a sequence of frames. -/
def stream (frames : List BusFrame) : List UInt8 := frames.flatMap BusFrame.wire

@[simp] theorem stream_nil : stream [] = [] := rfl

@[simp] theorem stream_cons (f : BusFrame) (fs : List BusFrame) :
    stream (f :: fs) = f.wire ++ stream fs := rfl

@[simp] theorem stream_append (fs gs : List BusFrame) :
    stream (fs ++ gs) = stream fs ++ stream gs :=
  flatMap_append

/-! ## The order in which frames leave the buffer -/

def pentairs (frames : List BusFrame) : List BusFrame := frames.filter BusFrame.isPentair

def jandys (frames : List BusFrame) : List BusFrame := frames.filter fun f => !f.isPentair

def lift (frames : List BusFrame) : List BusFrame := pentairs frames ++ jandys frames

def PentairFirst (frames : List BusFrame) : Prop :=
  frames.IsChain fun f g => ¬ (f.isPentair = false ∧ g.isPentair = true)

section

variable {fs gs : List BusFrame} {f : BusFrame}

@[simp] theorem pentairs_nil : pentairs [] = [] := rfl

@[simp] theorem jandys_nil : jandys [] = [] := rfl

@[simp] theorem pentairs_cons_pentair (p : PentairFrame) :
    pentairs (.pentair p :: fs) = .pentair p :: pentairs fs := rfl

@[simp] theorem pentairs_cons_jandy (j : JandyFrame) :
    pentairs (.jandy j :: fs) = pentairs fs := rfl

@[simp] theorem jandys_cons_pentair (p : PentairFrame) :
    jandys (.pentair p :: fs) = jandys fs := rfl

@[simp] theorem jandys_cons_jandy (j : JandyFrame) :
    jandys (.jandy j :: fs) = .jandy j :: jandys fs := rfl

@[simp] theorem pentairs_append : pentairs (fs ++ gs) = pentairs fs ++ pentairs gs :=
  filter_append ..

@[simp] theorem jandys_append : jandys (fs ++ gs) = jandys fs ++ jandys gs :=
  filter_append ..

theorem pentairs_pentairs : pentairs (pentairs fs) = pentairs fs := by
  simp [pentairs]

theorem jandys_jandys : jandys (jandys fs) = jandys fs := by
  simp [jandys]

theorem jandys_pentairs : jandys (pentairs fs) = [] := by
  simp [jandys, pentairs, filter_filter]

theorem pentairs_jandys : pentairs (jandys fs) = [] := by
  simp [jandys, pentairs, filter_filter]

theorem pentairs_lift : pentairs (lift fs) = pentairs fs := by
  rw [lift, pentairs_append, pentairs_pentairs, pentairs_jandys, append_nil]

theorem jandys_lift : jandys (lift fs) = jandys fs := by
  rw [lift, jandys_append, jandys_pentairs, jandys_jandys, nil_append]

/-- Behind a Jandy frame only Jandy frames can follow. -/
theorem pentairs_eq_nil_of_pentairFirst (hf : f.isPentair = false)
    (h : PentairFirst (f :: fs)) : pentairs fs = [] := by
  induction fs generalizing f with
  | nil => rfl
  | cons g gs ih =>
    obtain ⟨hpair, hrest⟩ := List.isChain_cons_cons.mp h
    have hg : g.isPentair = false := by
      by_contra hg
      exact hpair ⟨hf, by simpa using hg⟩
    have := ih hg hrest
    simp_all [pentairs]

theorem jandys_eq_self_of_pentairs_eq_nil (h : pentairs fs = []) : jandys fs = fs := by
  simp only [pentairs, filter_eq_nil_iff] at h
  refine List.filter_eq_self.mpr fun f hf => ?_
  simpa using h f hf

theorem pentairs_eq_self_of_jandys_eq_nil (h : jandys fs = []) : pentairs fs = fs := by
  simp only [jandys, filter_eq_nil_iff] at h
  refine List.filter_eq_self.mpr fun f hf => ?_
  simpa using h f hf

theorem length_lift : (lift fs).length = fs.length :=
  (filter_append_perm _ fs).length_eq

theorem pentairFirst_of_pentairs_eq_nil (h : pentairs fs = []) : PentairFirst fs := by
  simp only [pentairs, filter_eq_nil_iff] at h
  induction fs with
  | nil => exact isChain_nil
  | cons f fs ih =>
    have hrest := ih fun g hg => h g (mem_cons_of_mem _ hg)
    cases fs with
    | nil => exact isChain_singleton f
    | cons g gs =>
      refine List.isChain_cons_cons.mpr ⟨fun hpair => ?_, hrest⟩
      exact h g (mem_cons_of_mem _ mem_cons_self) hpair.2

theorem lift_eq_self_iff : lift fs = fs ↔ PentairFirst fs := by
  induction fs with
  | nil => exact ⟨fun _ => isChain_nil, fun _ => rfl⟩
  | cons f fs ih =>
    cases hf : f.isPentair with
    | true =>
      have hlift : lift (f :: fs) = f :: lift fs := by simp [lift, pentairs, jandys, hf]
      rw [hlift, cons_inj_right, ih]
      constructor
      · intro h
        cases fs with
        | nil => exact isChain_singleton f
        | cons g gs =>
          refine List.isChain_cons_cons.mpr ⟨fun hpair => ?_, h⟩
          rw [hf] at hpair
          exact absurd hpair.1 (by decide)
      · exact fun h => h.tail
    | false =>
      constructor
      · intro h
        -- no Pentair frame can have been moved to the front
        have hcons : pentairs fs ++ jandys (f :: fs) = f :: fs := by
          simpa [lift, pentairs, hf] using h
        have hnone : pentairs fs = [] := by
          cases hfirst : pentairs fs with
          | nil => rfl
          | cons p ps =>
            rw [hfirst] at hcons
            have hp : p.isPentair :=
              of_mem_filter (hfirst ▸ mem_cons_self : p ∈ pentairs fs)
            rw [(List.cons.inj hcons).1, hf] at hp
            cases hp
        refine pentairFirst_of_pentairs_eq_nil ?_
        simpa [pentairs, hf] using hnone
      · intro h
        have hnone := pentairs_eq_nil_of_pentairFirst hf h
        simp only [lift, pentairs, jandys, filter_cons, hf, Bool.false_eq_true, if_false,
          Bool.not_false, if_true] at hnone ⊢
        rw [hnone, nil_append]
        exact congrArg (f :: ·) (jandys_eq_self_of_pentairs_eq_nil hnone)

end

/-! ## Decoding a buffer of frames -/

section

variable {js fs : List BusFrame} {tail : List UInt8}

theorem preambleFree_wire {f : JandyFrame} (h : ¬ framePreamble <:+: f.wire) :
    PreambleFree f.wire := by
  refine preambleFree_of_getLast (z := headerByteETX) ?_ (by decide) h
  rw [f.wire_eq, getLast?_append_of_ne_nil _ (by simp)]
  rfl

section

variable (hjs : ∀ f ∈ js, f.Admissible) (hjandy : ∀ f ∈ js, f.isPentair = false)

include hjs hjandy

theorem preambleFree_stream : PreambleFree (stream js) := by
  induction js with
  | nil => exact preambleFree_nil
  | cons f js ih =>
    have hrest := ih (fun g hg => hjs g (mem_cons_of_mem _ hg))
      fun g hg => hjandy g (mem_cons_of_mem _ hg)
    cases f with
    | jandy f => exact (preambleFree_wire (hjs _ mem_cons_self).2).append hrest
    | pentair f => exact absurd (hjandy _ mem_cons_self) (by simp [BusFrame.isPentair])

theorem decodes_jandys (htail : ¬ framePreamble <:+: tail) (hstop : Decodes mixedBus tail [] tail) :
    Decodes mixedBus (stream js ++ tail) (js.map BusFrame.message) tail := by
  induction js with
  | nil => simpa using hstop
  | cons f js ih =>
    have hjs' : ∀ g ∈ js, g.Admissible := fun g hg => hjs g (mem_cons_of_mem _ hg)
    have hjandy' : ∀ g ∈ js, g.isPentair = false :=
      fun g hg => hjandy g (mem_cons_of_mem _ hg)
    cases f with
    | pentair f => exact absurd (hjandy _ mem_cons_self) (by simp [BusFrame.isPentair])
    | jandy f =>
      obtain ⟨haccepted, hnone⟩ := hjs _ mem_cons_self
      have hfree : ¬ framePreamble <:+: f.wire ++ (stream js ++ tail) :=
        (preambleFree_wire hnone).not_isInfix
          ((preambleFree_stream hjs' hjandy').not_isInfix htail)
      have hcall : generateMessage mixedBus (f.wire ++ (stream js ++ tail)) =
          (.ok (.jandy f.message), stream js ++ tail) := by
        have hgenerate := Jandy.generateMessageFromRawData_frame f (avoids_nil _ _)
          (stream js ++ tail)
        rw [nil_append, f.createFromSerialData_wire, if_pos haccepted] at hgenerate
        rw [generateMessage_of_no_preamble hfree, GeneratorKind.generator, hgenerate]
        rfl
      rw [stream_cons, BusFrame.wire, append_assoc]
      refine decodes_of_message ?_ hcall (ih hjs' hjandy')
      have := (BusFrame.jandy f).wire_ne_nil
      simp_all [BusFrame.wire]

/-- The Pentair frames are lifted out of the buffer first; what happens after that
happens to the Jandy frames and what is behind them. -/
theorem decodes_pentairs (hfs : ∀ f ∈ fs, f.Admissible) {messages : List ProtocolMessage}
    {rest : List UInt8} (h : Decodes mixedBus (stream (js ++ jandys fs) ++ tail) messages rest) :
    Decodes mixedBus (stream js ++ stream fs ++ tail)
      ((pentairs fs).map BusFrame.message ++ messages) rest := by
  induction fs generalizing js with
  | nil => simpa using h
  | cons f fs ih =>
    have hfs' : ∀ g ∈ fs, g.Admissible := fun g hg => hfs g (mem_cons_of_mem _ hg)
    cases f with
    | jandy f =>
      -- a Jandy frame waits for the Pentair frames behind it
      have hjs' : ∀ g ∈ js ++ [.jandy f], g.Admissible := by
        intro g hg
        rcases List.mem_append.mp hg with h | h
        · exact hjs g h
        · rw [List.mem_singleton.mp h]
          exact hfs _ mem_cons_self
      have hjandy' : ∀ g ∈ js ++ [.jandy f], g.isPentair = false := by
        intro g hg
        rcases List.mem_append.mp hg with h | h
        · exact hjandy g h
        · rw [List.mem_singleton.mp h]
          rfl
      have := ih hjs' hjandy' hfs' (by simpa using h)
      simpa using this
    | pentair f =>
      have haccepted : f.Accepted := hfs _ mem_cons_self
      have hcall : generateMessage mixedBus (stream js ++ f.wire ++ (stream fs ++ tail)) =
          (.ok (.pentair f.message), stream js ++ (stream fs ++ tail)) := by
        have hgenerate := Pentair.generateMessageFromRawData_frame f
          (preambleFree_stream hjs hjandy) (stream fs ++ tail)
        rw [f.createFromSerialData_region, if_pos haccepted] at hgenerate
        have hpreamble : framePreamble <:+: stream js ++ f.wire ++ (stream fs ++ tail) := by
          rw [f.wire_eq]
          exact ⟨stream js, f.region.tail ++ (stream fs ++ tail), by simp⟩
        rw [generateMessage_of_preamble hpreamble, GeneratorKind.generator, hgenerate]
        rfl
      have hne : stream js ++ f.wire ++ (stream fs ++ tail) ≠ [] := by
        have := (BusFrame.pentair f).wire_ne_nil
        simp_all [BusFrame.wire]
      have hrest := ih hjs hjandy hfs' (by simpa using h)
      rw [append_assoc] at hrest
      have := decodes_of_message hne hcall hrest
      simpa [BusFrame.wire, BusFrame.message] using this

end

private theorem admissible_jandys (hfs : ∀ f ∈ fs, f.Admissible) : ∀ f ∈ jandys fs, f.Admissible :=
  fun f hf => hfs f (mem_of_mem_filter hf)

private theorem isPentair_of_mem_jandys {f : BusFrame} (hf : f ∈ jandys fs) :
    f.isPentair = false := by
  simpa using of_mem_filter hf

/-- **Complete frames, nothing held back.**  Without a Pentair frame in flight behind
them, all frames are decoded, Pentair frames first. -/
theorem decodes_lift (hfs : ∀ f ∈ fs, f.Admissible) (htail : ¬ framePreamble <:+: tail)
    (hstop : Decodes mixedBus tail [] tail) :
    Decodes mixedBus (stream fs ++ tail) ((lift fs).map BusFrame.message) tail := by
  have hjandys := decodes_jandys (admissible_jandys hfs) (fun _ => isPentair_of_mem_jandys)
    htail hstop
  rw [lift, map_append]
  exact decodes_pentairs (forall_mem_nil _) (forall_mem_nil _) hfs hjandys

/-- **Complete frames, and behind them a Pentair frame in flight.**  The complete
Pentair frames are decoded, everything else is held back. -/
theorem decodes_held (hfs : ∀ f ∈ fs, f.Admissible) (p : PentairFrame) {k : ℕ} (hfour : 4 ≤ k)
    (hk : k < p.wire.length) :
    Decodes mixedBus (stream fs ++ p.wire.take k) ((pentairs fs).map BusFrame.message)
      (stream (jandys fs) ++ p.wire.take k) := by
  have hpreamble : framePreamble <:+: stream (jandys fs) ++ p.wire.take k := by
    have htake : p.wire.take k = framePreamble ++ p.region.tail.take (k - 4) := by
      rw [p.wire_eq, take_append, take_of_length_le (by simpa using hfour)]
      rfl
    rw [htake]
    exact ⟨stream (jandys fs), p.region.tail.take (k - 4), by simp⟩
  have hcall : generateMessage mixedBus (stream (jandys fs) ++ p.wire.take k) =
      (.error .dataAvailableToProcess, stream (jandys fs) ++ p.wire.take k) := by
    rw [generateMessage_of_preamble hpreamble, GeneratorKind.generator,
      Pentair.generateMessageFromRawData_incomplete p
        (preambleFree_stream (admissible_jandys hfs) fun _ => isPentair_of_mem_jandys) hfour hk]
    rfl
  have hstop := decodes_of_stop hcall (.inr le_rfl)
  have := decodes_pentairs (forall_mem_nil _) (forall_mem_nil _) hfs hstop
  rwa [append_nil] at this

theorem decodes_incompleteJandy (j : JandyFrame) (hj : ¬ framePreamble <:+: j.wire) {k : ℕ}
    (htwo : 2 ≤ k) (hk : k < j.wire.length) :
    ¬ framePreamble <:+: j.wire.take k ∧ Decodes mixedBus (j.wire.take k) [] (j.wire.take k) := by
  have hnone : ¬ framePreamble <:+: j.wire.take k :=
    fun h => hj (h.trans (List.take_prefix _ _).isInfix)
  have hcall : generateMessage mixedBus (j.wire.take k) =
      (.error .waitingForMoreData, j.wire.take k) := by
    rw [generateMessage_of_no_preamble hnone, GeneratorKind.generator,
      Jandy.generateMessageFromRawData_incomplete j htwo hk]
    rfl
  exact ⟨hnone, decodes_of_stop hcall (.inl rfl)⟩

end

end AqualinkAutomate.Protocol
