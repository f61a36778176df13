import Aqualink.Jandy.Frame
import Aqualink.Protocol.DecodeLoop

/-!
# Resynchronisation of the Jandy generator

What becomes of a good frame behind a broken packet.  The garbage may hold packet
starts but no end behind any of them.

As long as the distance from the first start of the garbage to the end of the
frame is within the maximum packet length, the generator sees a second start
before the end, erases up to it, and so works its way to the frame.  Beyond that
distance the overlong clean-up runs first.  It erases through the end that was
found, which is the end of the good frame.
-/

namespace AqualinkAutomate.Protocol

open General Jandy List

def NoCompletePacket (garbage : List UInt8) : Prop :=
  ∀ before after, garbage = before ++ packetStartSequence ++ after →
    ¬ packetEndSequence <:+: after

variable {garbage : List UInt8}

theorem NoCompletePacket.of_suffix {rest : List UInt8} (h : NoCompletePacket garbage)
    (hsuffix : rest <:+ garbage) : NoCompletePacket rest := by
  obtain ⟨front, rfl⟩ := hsuffix
  rintro before after rfl
  exact h (front ++ before) after (by simp only [append_assoc])

/-- The first start of the garbage and the end of the frame are within the maximum
packet length. -/
def WithinReach (garbage : List UInt8) (f : JandyFrame) : Prop :=
  garbage.length - searchIndex packetStartSequence garbage + f.wire.length ≤ maximumPacketLength

instance (garbage : List UInt8) (f : JandyFrame) : Decidable (WithinReach garbage f) :=
  inferInstanceAs (Decidable (_ ≤ _))

theorem noCompletePacket_of_not_mem (h : headerByteETX ∉ garbage) : NoCompletePacket garbage := by
  rintro before after rfl hend
  have hmem : headerByteETX ∈ after := hend.subset (by simp)
  exact h (mem_append_right _ hmem)

/-! ## The searches behind the first start -/

section

variable {after : List UInt8} (f : JandyFrame)

private def upToEnd (after : List UInt8) (f : JandyFrame) : List UInt8 :=
  after ++ (packetStartSequence ++ insertNullAfterDLE f.body)

private theorem append_wire (after : List UInt8) :
    after ++ f.wire = upToEnd after f ++ packetEndSequence ++ [] := by
  simp only [upToEnd, f.wire_eq, append_assoc, append_nil]

private theorem length_upToEnd (after : List UInt8) :
    (upToEnd after f).length + 2 = after.length + f.wire.length := by
  simp only [upToEnd, f.length_wire, length_append, length_cons, length_nil]
  omega

private theorem endIndex_append_wire (hnone : ¬ packetEndSequence <:+: after) :
    endIndex (after ++ f.wire) = (upToEnd after f).length := by
  have havoid : Avoids headerByteDLE headerByteETX (upToEnd after f) := by
    refine avoids_append.mpr ⟨avoids_iff.mpr hnone, avoids_append.mpr
      ⟨avoids_cons_cons.mpr ⟨by decide, avoids_singleton _ _ _⟩, f.avoids_body (by decide), ?_⟩, ?_⟩
    · rintro x hx y - ⟨rfl, -⟩
      exact absurd hx (by decide)
    · rintro x - y hy ⟨-, rfl⟩
      exact absurd hy (by simp)
  rw [endIndex, append_wire]
  exact searchIndex_pair (by decide) havoid []

private theorem secondStartIndex_append_wire (hnone : ¬ packetEndSequence <:+: after) :
    secondStartIndex (after ++ f.wire) = searchIndex packetStartSequence after := by
  rw [secondStartIndex, endIndex_append_wire f hnone, append_wire, append_nil, take_left, upToEnd]
  by_cases hstart : packetStartSequence <:+: after
  · exact searchIndex_append_of_isInfix (by simp) hstart _
  · rw [(searchIndex_eq_length_iff (by simp)).mpr hstart, ← append_assoc]
    exact searchIndex_pair (by decide) (avoids_iff.mpr hstart) _

private theorem withinReach_start_iff {before : List UInt8}
    (hbefore : Avoids headerByteDLE headerByteSTX before) :
    WithinReach (before ++ packetStartSequence ++ after) f ↔
      after.length + f.wire.length + 2 ≤ maximumPacketLength := by
  have hindex : searchIndex packetStartSequence (before ++ packetStartSequence ++ after) =
      before.length := searchIndex_pair (by decide) hbefore after
  rw [WithinReach, hindex]
  simp only [length_append, length_cons, length_nil]
  omega

private theorem overlong_iff {before : List UInt8}
    (hbefore : Avoids headerByteDLE headerByteSTX before) (hnone : ¬ packetEndSequence <:+: after) :
    Overlong before (after ++ f.wire) ↔
      ¬ WithinReach (before ++ packetStartSequence ++ after) f := by
  have hupToEnd := length_upToEnd f after
  rw [withinReach_start_iff f hbefore, Overlong, endIndex_append_wire f hnone, length_append]
  omega

end

/-! ## The run -/

section

variable {before after : List UInt8} {f : JandyFrame}

section

variable (hbefore : Avoids headerByteDLE headerByteSTX before)
  (hnone : ¬ packetEndSequence <:+: after)

include hbefore hnone

theorem generateMessage_of_withinReach
    (hreach : WithinReach (before ++ packetStartSequence ++ after) f) :
    generateMessage [.jandy] (before ++ packetStartSequence ++ after ++ f.wire) =
      (.error .overlappingPackets,
        after.drop (searchIndex packetStartSequence after) ++ f.wire) := by
  have hlong : ¬ Overlong before (after ++ f.wire) := fun hlong =>
    (overlong_iff f hbefore hnone).mp hlong hreach
  have hsecond := searchIndex_le_length packetStartSequence after
  have hbeforeEnd : searchIndex packetStartSequence after < (upToEnd after f).length := by
    have hupToEnd := length_upToEnd f after
    have hwire := f.length_wire
    omega
  rw [generateMessage_singleton, GeneratorKind.generator, append_assoc _ after,
    generateMessageFromRawData_of_start hbefore, endIndex_append_wire f hnone,
    secondStartIndex_append_wire f hnone, if_neg hlong, if_pos hbeforeEnd,
    drop_append_of_le_length hsecond]
  rfl

theorem generateMessage_of_not_withinReach
    (hreach : ¬ WithinReach (before ++ packetStartSequence ++ after) f) :
    generateMessage [.jandy] (before ++ packetStartSequence ++ after ++ f.wire) =
      (.error .waitingForMoreData, []) := by
  have herased : (after ++ f.wire).drop ((upToEnd after f).length + 2) = [] := by
    refine drop_eq_nil_of_le ?_
    rw [length_upToEnd f after, length_append]
  rw [generateMessage_singleton, GeneratorKind.generator, append_assoc _ after,
    generateMessageFromRawData_of_start hbefore, endIndex_append_wire f hnone,
    if_pos ((overlong_iff f hbefore hnone).mpr hreach), herased]
  rfl

end

end

section

variable (hgarbage : NoCompletePacket garbage) (f : JandyFrame)

include hgarbage

theorem decodes_frame_of_withinReach (haccepted : f.Accepted) (hreach : WithinReach garbage f) :
    Decodes [.jandy] (garbage ++ f.wire) [.jandy f.message] [] := by
  induction hn : garbage.length using Nat.strong_induction_on generalizing garbage with
  | _ n ih =>
    have hwire : f.wire ≠ [] := by
      rw [f.wire_eq]
      simp
    have hbuffer : garbage ++ f.wire ≠ [] := by simp [hwire]
    by_cases hstart : packetStartSequence <:+: garbage
    · -- the rest of the garbage is shorter, and the frame still within its reach
      obtain ⟨before, after, rfl, hbefore⟩ := exists_split_start hstart
      have hcall := generateMessage_of_withinReach hbefore (hgarbage before after rfl) hreach
      have hrest : NoCompletePacket (after.drop (searchIndex packetStartSequence after)) :=
        hgarbage.of_suffix ((drop_suffix _ _).trans (suffix_append _ _))
      have hlength : (after.drop (searchIndex packetStartSequence after)).length ≤
          after.length := (drop_sublist _ _).length_le
      have hreach' : WithinReach (after.drop (searchIndex packetStartSequence after)) f := by
        have hroom := (withinReach_start_iff f hbefore).mp hreach
        rw [WithinReach]
        omega
      rw [length_append, length_append] at hn
      refine decodes_of_retry hbuffer hcall rfl ?_ (ih _ ?_ hrest hreach' rfl)
      · simp only [length_append, length_cons, length_nil]
        omega
      · simp only [length_cons, length_nil] at hn
        omega
    · -- the frame is the first packet of the buffer
      have hgenerate := generateMessageFromRawData_frame f (avoids_iff.mpr hstart) []
      rw [append_nil, f.createFromSerialData_wire, if_pos haccepted] at hgenerate
      refine decodes_of_message hbuffer ?_ decodes_nil
      rw [generateMessage_singleton, GeneratorKind.generator, hgenerate]
      rfl

theorem decodes_nothing_of_not_withinReach (hreach : ¬ WithinReach garbage f) :
    Decodes [.jandy] (garbage ++ f.wire) [] [] := by
  have hstart : packetStartSequence <:+: garbage := by
    by_contra hstart
    rw [WithinReach, (searchIndex_eq_length_iff (by simp)).mpr hstart, Nat.sub_self,
      Nat.zero_add] at hreach
    exact hreach f.fits
  obtain ⟨before, after, rfl, hbefore⟩ := exists_split_start hstart
  exact decodes_of_stop
    (generateMessage_of_not_withinReach hbefore (hgarbage before after rfl) hreach) (.inl rfl)

end

/-- **Resynchronisation.**  Behind garbage without a complete packet, an accepted
frame is decoded exactly when it is within reach of the first start of the
garbage. -/
theorem resynchronises_iff {garbage : List UInt8} (hgarbage : NoCompletePacket garbage)
    (f : JandyFrame) (haccepted : f.Accepted) :
    .jandy f.message ∈ (processMessages [.jandy] (garbage ++ f.wire)).dispatched ↔
      WithinReach garbage f := by
  constructor
  · intro hdecoded
    by_contra hreach
    rw [processMessages_eq (decodes_nothing_of_not_withinReach hgarbage f hreach)] at hdecoded
    cases hdecoded
  · intro hreach
    rw [processMessages_eq (decodes_frame_of_withinReach hgarbage f haccepted hreach)]
    exact mem_singleton_self _

/-- A packet that breaks off after three bytes does not cost the probe behind it. -/
theorem resynchronises_short :
    .jandy probeFrame.message ∈
      (processMessages [.jandy] ([0x10, 0x02, 0x55] ++ probeFrame.wire)).dispatched :=
  (resynchronises_iff (noCompletePacket_of_not_mem (by decide)) probeFrame (by decide)).mpr
    (by decide)

/-- A packet that breaks off after 126 bytes does. -/
theorem resynchronises_not_long :
    NoCompletePacket (packetStartSequence ++ replicate 124 0x55) ∧ probeFrame.Accepted ∧
      .jandy probeFrame.message ∉ (processMessages [.jandy]
        (packetStartSequence ++ replicate 124 0x55 ++ probeFrame.wire)).dispatched := by
  have hgarbage : NoCompletePacket (packetStartSequence ++ replicate 124 0x55) :=
    noCompletePacket_of_not_mem (by decide)
  have hreach : ¬ WithinReach (packetStartSequence ++ replicate 124 0x55) probeFrame := by
    rw [WithinReach, searchIndex_self_append (by simp), length_append, length_replicate]
    decide
  refine ⟨hgarbage, by decide, ?_⟩
  rw [processMessages_eq (decodes_nothing_of_not_withinReach hgarbage probeFrame hreach)]
  exact not_mem_nil

end AqualinkAutomate.Protocol
