import Aqualink.Protocol.BusFrames
import Aqualink.Protocol.ReadPath

/-!
# Frames of both protocols, cut into reads

A stream of frames arrives in reads.  Each read is appended to the serial buffer
and the decode loop is run.  The reads may be cut anywhere except inside the
marker that lets a generator recognise its frame.

Between two reads the buffer then holds the received part of one frame, and in front of it,
if that is a Pentair frame, the Jandy frames that completed in the meantime (`InFlight`).
So every frame is decoded exactly once, and all come in their order exactly when every Pentair
frame that directly follows a Jandy frame starts a new read (`mixedBus_decodes`).
-/

namespace AqualinkAutomate.Protocol

open General Jandy Pentair List

structure BusState where
  buffer : SerialBuffer := {}
  dispatched : List ProtocolMessage := []

/-- Append one read and run the decode loop. -/
def deliver (s : BusState) (read : List UInt8) : BusState where
  buffer := (s.buffer.insert read).processMessages
  dispatched := s.dispatched ++
    (processMessages mixedBus (s.buffer.insert read).bytes).dispatched

def deliverAll (s : BusState) (reads : List (List UInt8)) : BusState :=
  reads.foldl deliver s

/-- Every read fits the space that is free when it arrives. -/
def ReadsFit : BusState → List (List UInt8) → Prop
  | _, [] => True
  | s, read :: reads =>
    s.buffer.bytes.length + read.length ≤ serialCircularBufferSize ∧
      ReadsFit (deliver s read) reads

theorem readsFit_of_length_le {s : BusState} {reads : List (List UInt8)}
    (h : s.buffer.bytes.length + reads.flatten.length ≤ serialCircularBufferSize) :
    ReadsFit s reads := by
  induction reads generalizing s with
  | nil => trivial
  | cons read reads ih =>
    rw [flatten_cons, length_append] at h
    have hfits : s.buffer.bytes.length + read.length ≤ serialCircularBufferSize := by omega
    refine ⟨hfits, ih ?_⟩
    have hle := (processMessages_sublist mixedBus (s.buffer.insert read).bytes).length_le
    rw [insert_bytes_of_fits hfits, length_append] at hle
    have hbuffer : (deliver s read).buffer.bytes.length ≤ s.buffer.bytes.length + read.length := by
      simpa only [deliver, SerialBuffer.processMessages, insert_bytes_of_fits hfits] using hle
    omega

/-! ## Cuts -/

/-- The positions at which a stream is cut, of which `received` bytes have arrived. -/
def cutPositions (received : ℕ) : List (List UInt8) → List ℕ
  | [] => [received]
  | read :: reads => received :: cutPositions (received + read.length) reads

def inMarker : List BusFrame → ℕ → Bool
  | [], _ => false
  | f :: frames, position =>
    if position < f.wire.length then 0 < position && position < f.markerLength
    else inMarker frames (position - f.wire.length)

/-- The positions at which a Pentair frame directly follows a Jandy frame. -/
def overtakings : List BusFrame → List ℕ
  | f :: g :: frames =>
    (if f.isPentair = false ∧ g.isPentair = true then [f.wire.length] else []) ++
      (overtakings (g :: frames)).map (f.wire.length + ·)
  | _ => []

section

variable {frames fs todo : List BusFrame} {reads : List (List UInt8)} {q k : ℕ}

theorem cutPositions_add (a b : ℕ) (reads : List (List UInt8)) :
    cutPositions (a + b) reads = (cutPositions b reads).map (a + ·) := by
  induction reads generalizing b with
  | nil => rfl
  | cons read reads ih => simp only [cutPositions, map_cons, Nat.add_assoc, ih]

theorem mem_cutPositions_self (k : ℕ) (reads : List (List UInt8)) : k ∈ cutPositions k reads := by
  cases reads <;> exact mem_cons_self

theorem le_of_mem_cutPositions (h : q ∈ cutPositions k reads) : k ≤ q := by
  induction reads generalizing k with
  | nil => rw [List.mem_singleton.mp h]
  | cons read reads ih =>
    rcases List.mem_cons.mp h with rfl | h
    · exact le_rfl
    · have := ih h
      omega

theorem add_mem_cutPositions_iff (a : ℕ) :
    a + q ∈ cutPositions (a + k) reads ↔ q ∈ cutPositions k reads := by
  rw [cutPositions_add, mem_map]
  constructor
  · rintro ⟨p, hp, hpq⟩
    obtain rfl : p = q := by omega
    exact hp
  · exact fun h => ⟨q, h, rfl⟩

theorem inMarker_append (fs todo : List BusFrame) (q : ℕ) :
    inMarker (fs ++ todo) ((stream fs).length + q) = inMarker todo q := by
  induction fs with
  | nil => simp
  | cons f fs ih =>
    have hsub : (f.wire ++ stream fs).length + q - f.wire.length = (stream fs).length + q := by
      rw [length_append]
      omega
    rw [cons_append, inMarker, stream_cons, if_neg (by rw [length_append]; omega), hsub, ih]

theorem length_le_of_mem_overtakings {f : BusFrame} (h : q ∈ overtakings (f :: frames)) :
    f.wire.length ≤ q := by
  cases frames with
  | nil => cases h
  | cons g frames =>
    rw [overtakings, mem_append] at h
    rcases h with h | h
    · split at h
      · rw [List.mem_singleton.mp h]
      · cases h
    · obtain ⟨p, -, rfl⟩ := List.mem_map.mp h
      exact Nat.le_add_right _ _

theorem zero_mem_cutPositions_iff : 0 ∈ cutPositions k reads ↔ k = 0 := by
  constructor
  · intro h
    have := le_of_mem_cutPositions h
    omega
  · rintro rfl
    exact mem_cutPositions_self 0 reads

theorem pentairFirst_cons_cons {f g : BusFrame} :
    PentairFirst (f :: g :: frames) ↔
      ¬ (f.isPentair = false ∧ g.isPentair) ∧ PentairFirst (g :: frames) :=
  isChain_cons_cons

theorem overtakings_cons_cons_iff (f g : BusFrame) (frames : List BusFrame) (n : ℕ)
    (reads : List (List UInt8)) :
    (∀ q ∈ overtakings (f :: g :: frames), q ∈ cutPositions (f.wire.length + n) reads) ↔
      (f.isPentair = false ∧ g.isPentair → n = 0) ∧
        ∀ q ∈ overtakings (g :: frames), q ∈ cutPositions n reads := by
  simp only [overtakings, forall_mem_append, forall_mem_map, add_mem_cutPositions_iff]
  refine and_congr_left fun _ => ?_
  split
  next hpair =>
    have hshift : f.wire.length ∈ cutPositions (f.wire.length + n) reads ↔
        0 ∈ cutPositions n reads := by
      rw [← add_mem_cutPositions_iff (q := 0) f.wire.length, Nat.add_zero]
    simp only [forall_mem_singleton, hpair, and_self, true_imp_iff]
    rw [hshift, zero_mem_cutPositions_iff]
  next hpair => simp [hpair]

theorem overtakings_append_cut_iff (fs todo : List BusFrame) (k : ℕ) (reads : List (List UInt8)) :
    (∀ q ∈ overtakings (fs ++ todo), q ∈ cutPositions ((stream fs).length + k) reads) ↔
      PentairFirst fs ∧ (k ≠ 0 → PentairFirst (fs ++ todo.take 1)) ∧
        ∀ q ∈ overtakings todo, q ∈ cutPositions k reads := by
  have hnil : PentairFirst [] := isChain_nil
  have hone : ∀ f, PentairFirst [f] := fun f => isChain_singleton f
  induction fs with
  | nil =>
    have hhead : PentairFirst (todo.take 1) := by
      cases todo with
      | nil => exact hnil
      | cons f todo => exact hone f
    simp [hhead, hnil]
  | cons f fs ih =>
    have hlength : (stream (f :: fs)).length + k = f.wire.length + ((stream fs).length + k) := by
      rw [stream_cons, length_append, Nat.add_assoc]
    rw [hlength, cons_append, cons_append]
    cases hnext : fs ++ todo with
    | nil =>
      obtain ⟨rfl, rfl⟩ := List.append_eq_nil_iff.mp hnext
      simp [overtakings, hone]
    | cons g frames =>
      rw [overtakings_cons_cons_iff, ← hnext]
      refine (and_congr_right fun _ => ih).trans ?_
      cases fs with
      | nil =>
        obtain rfl : todo = g :: frames := hnext
        simp only [nil_append, take_succ_cons, take_zero, stream_nil,
          length_nil, Nat.zero_add, pentairFirst_cons_cons]
        constructor
        · rintro ⟨hpair, -, -, hrest⟩
          exact ⟨hone f, fun hk => ⟨fun h => hk (hpair h), hone g⟩, hrest⟩
        · rintro ⟨-, hfirst, hrest⟩
          exact ⟨fun h => by_contra fun hk => (hfirst hk).1 h, hnil, fun _ => hone g, hrest⟩
      | cons h fs =>
        obtain ⟨rfl, -⟩ := List.cons.inj hnext
        -- the overtaking of the second frame is inside what has arrived
        have hpos : (stream (h :: fs)).length + k ≠ 0 := by
          have := length_pos_of_ne_nil h.wire_ne_nil
          rw [stream_cons, length_append]
          omega
        simp only [cons_append, pentairFirst_cons_cons, hpos]
        constructor
        · rintro ⟨hpair, hfirst, hcut, hrest⟩
          exact ⟨⟨hpair, hfirst⟩, fun hk => ⟨hpair, hcut hk⟩, hrest⟩
        · rintro ⟨⟨hpair, hfirst⟩, hcut, hrest⟩
          exact ⟨hpair, hfirst, fun hk => (hcut hk).2, hrest⟩

end

/-! ## Frames in flight -/

theorem exists_split_stream (todo : List BusFrame) {n : ℕ} (hn : n ≤ (stream todo).length) :
    ∃ fs rest k, todo = fs ++ rest ∧ n = (stream fs).length + k ∧
      (k ≠ 0 → ∃ f frames, rest = f :: frames ∧ k < f.wire.length) := by
  induction todo generalizing n with
  | nil =>
    obtain rfl : n = 0 := by simpa using hn
    exact ⟨[], [], 0, rfl, rfl, fun h => absurd rfl h⟩
  | cons f todo ih =>
    by_cases hinside : n < f.wire.length
    · exact ⟨[], f :: todo, n, rfl, (Nat.zero_add n).symm, fun _ => ⟨f, todo, rfl, hinside⟩⟩
    · rw [stream_cons, length_append] at hn
      obtain ⟨fs, rest, k, rfl, hk, hrest⟩ := ih (n := n - f.wire.length) (by omega)
      have hlength : n = f.wire.length + (stream fs).length + k := by
        clear hrest
        omega
      exact ⟨f :: fs, rest, k, rfl, by rw [stream_cons, length_append, hlength], hrest⟩

/-- Between two reads: `k` bytes of the frames `todo` are in the buffer, all of the
first frame, and the frames `held` are in front of them. -/
structure InFlight (held todo : List BusFrame) (k : ℕ) (bytes : List UInt8) : Prop where
  bytes_eq : bytes = stream held ++ (stream todo).take k
  pentairs_held : pentairs held = []
  held_of_zero : k = 0 → held = []
  begun : k ≠ 0 → ∃ f frames, todo = f :: frames ∧ k < f.wire.length ∧
    (f.isPentair = false → held = [])

/-- What one run of the decode loop emits and holds when the frames `fs` complete
behind the frames `held` and `k` bytes of `rest` are in flight: everything is lifted
out, or a Pentair frame is in flight and the Jandy frames are held. -/
inductive Emits (held fs rest : List BusFrame) (k : ℕ) :
    (out held' : List BusFrame) → Prop where
  | lifted (h : k ≠ 0 → ∃ j frames, rest = .jandy j :: frames) :
      Emits held fs rest k (lift (held ++ fs)) []
  | heldBack (hk : k ≠ 0) (h : ∃ p frames, rest = .pentair p :: frames) :
      Emits held fs rest k (pentairs (held ++ fs)) (jandys (held ++ fs))

section

variable {held held' todo fs rest out order : List BusFrame} {k k' : ℕ} {bytes : List UInt8}

theorem inFlight_nil : InFlight [] todo 0 [] :=
  ⟨rfl, rfl, fun _ => rfl, fun h => absurd rfl h⟩

theorem InFlight.le_length (h : InFlight held todo k bytes) : k ≤ (stream todo).length := by
  by_cases hk : k = 0
  · omega
  · obtain ⟨f, frames, rfl, hlt, -⟩ := h.begun hk
    rw [stream_cons, length_append]
    omega

theorem InFlight.ne_of_mem_overtakings (h : InFlight held todo k bytes) {q : ℕ}
    (hq : q ∈ overtakings todo) : q ≠ k := by
  rintro rfl
  cases todo with
  | nil => cases hq
  | cons f frames =>
    have hle := length_le_of_mem_overtakings hq
    have hpos := length_pos_of_ne_nil f.wire_ne_nil
    obtain ⟨g, gs, heq, hlt, -⟩ := h.begun (by omega)
    cases heq
    omega

theorem InFlight.eq_nil (h : InFlight held todo k bytes) (hdone : [] = (stream todo).drop k) :
    todo = [] ∧ held = [] ∧ bytes = [] := by
  have hlength := congrArg List.length hdone
  rw [length_nil, length_drop] at hlength
  have hzero : k = 0 := by
    by_contra hk
    obtain ⟨f, frames, rfl, hlt, -⟩ := h.begun hk
    rw [stream_cons, length_append] at hlength
    omega
  subst hzero
  have htodo : todo = [] := by
    cases todo with
    | nil => rfl
    | cons f frames =>
      have := length_pos_of_ne_nil f.wire_ne_nil
      rw [stream_cons, length_append] at hlength
      omega
  have hheld := h.held_of_zero rfl
  refine ⟨htodo, hheld, ?_⟩
  rw [h.bytes_eq, hheld, htodo]
  rfl

theorem InFlight.pentair_of_held {n : ℕ} (h : InFlight held (fs ++ rest) k bytes)
    (hk' : k + n = (stream fs).length + k') (hsome : held ≠ []) :
    (k' ≠ 0 ∨ fs ≠ []) ∧ ∃ p frames, fs ++ rest = .pentair p :: frames := by
  have hk : k ≠ 0 := fun hzero => hsome (h.held_of_zero hzero)
  obtain ⟨f, frames, heq, -, hf⟩ := h.begun hk
  cases f with
  | jandy j => exact absurd (hf rfl) hsome
  | pentair p =>
    refine ⟨?_, p, frames, heq⟩
    cases fs with
    | nil =>
      rw [stream_nil, length_nil] at hk'
      exact .inl (by omega)
    | cons g gs => exact .inr (cons_ne_nil g gs)

variable {frames : List BusFrame}

theorem markerLength_le {f : BusFrame} (hk : k ≠ 0) (hlt : k < f.wire.length)
    (hclean : inMarker (f :: frames) k = false) : f.markerLength ≤ k := by
  rw [inMarker, if_pos hlt] at hclean
  by_contra hle
  have : (decide (0 < k) && decide (k < f.markerLength)) := by
    simp only [Bool.and_eq_true, decide_eq_true_eq]
    omega
  rw [this] at hclean
  cases hclean

theorem decodes_inFlight (hheld : ∀ f ∈ held, f.Admissible) (hfs : ∀ f ∈ fs, f.Admissible)
    (hrest : ∀ f ∈ rest, f.Admissible) (hclean : inMarker rest k' = false)
    (hbegun : k' ≠ 0 → ∃ f frames, rest = f :: frames ∧ k' < f.wire.length) :
    ∃ out held' bytes', Decodes mixedBus (stream (held ++ fs) ++ (stream rest).take k')
        (out.map BusFrame.message) bytes' ∧ InFlight held' rest k' bytes' ∧
      Emits held fs rest k' out held' := by
  have hall : ∀ f ∈ held ++ fs, f.Admissible := List.forall_mem_append.mpr ⟨hheld, hfs⟩
  by_cases hk : k' = 0
  · subst hk
    refine ⟨lift (held ++ fs), [], [], ?_, inFlight_nil, .lifted fun h => absurd rfl h⟩
    rw [take_zero]
    exact decodes_lift hall (by decide) decodes_nil
  · obtain ⟨f, frames, rfl, hlt⟩ := hbegun hk
    have hmarker := markerLength_le hk hlt hclean
    have htake : (stream (f :: frames)).take k' = f.wire.take k' := by
      rw [stream_cons, take_append_of_le_length hlt.le]
    rw [htake]
    cases f with
    | jandy j =>
      obtain ⟨-, hnone⟩ := hrest _ mem_cons_self
      obtain ⟨htail, hstop⟩ := decodes_incompleteJandy j hnone hmarker hlt
      refine ⟨lift (held ++ fs), [], j.wire.take k', decodes_lift hall htail hstop, ?_,
        .lifted fun _ => ⟨j, frames, rfl⟩⟩
      exact ⟨htake.symm, rfl, fun _ => rfl, fun _ => ⟨_, frames, rfl, hlt, fun _ => rfl⟩⟩
    | pentair p =>
      refine ⟨pentairs (held ++ fs), jandys (held ++ fs), _, decodes_held hall p hmarker hlt, ?_,
        .heldBack hk ⟨p, frames, rfl⟩⟩
      refine ⟨by rw [htake]; rfl, pentairs_jandys, fun h => absurd h hk, fun _ => ?_⟩
      exact ⟨_, frames, rfl, hlt, nofun⟩

theorem eq_jandys_append (h : pentairs frames ++ order = frames ++ rest) :
    order = jandys frames ++ rest := by
  obtain ⟨behind, hbehind⟩ : pentairs frames <+: frames :=
    prefix_of_prefix_length_le ⟨order, h⟩ ⟨rest, rfl⟩ (length_filter_le _ _)
  have hpentairs : pentairs behind = [] := by
    have := congrArg pentairs hbehind
    rw [pentairs_append, pentairs_pentairs] at this
    exact List.append_right_eq_self.mp this
  have hjandys : behind = jandys frames := by
    have := congrArg jandys hbehind
    rwa [jandys_append, jandys_pentairs, nil_append,
      jandys_eq_self_of_pentairs_eq_nil hpentairs] at this
  have hfront : pentairs frames ++ order = pentairs frames ++ (jandys frames ++ rest) := by
    rw [h, ← hjandys, ← append_assoc, hbehind]
  exact append_cancel_left hfront

theorem pentairFirst_append_pentair_iff (p : PentairFrame) :
    PentairFirst (fs ++ [.pentair p]) ↔ jandys fs = [] := by
  induction fs with
  | nil => exact ⟨fun _ => rfl, fun _ => isChain_singleton _⟩
  | cons f fs ih =>
    cases f with
    | jandy j =>
      refine ⟨fun h => ?_, nofun⟩
      have := pentairs_eq_nil_of_pentairFirst rfl h
      simp at this
    | pentair q =>
      rw [jandys_cons_pentair, ← ih]
      cases fs with
      | nil => simp [pentairFirst_cons_cons, BusFrame.isPentair]
      | cons g fs =>
        rw [cons_append, cons_append, pentairFirst_cons_cons]
        simp [BusFrame.isPentair]

theorem pentairFirst_append_jandy_iff (j : JandyFrame) :
    PentairFirst (fs ++ [.jandy j]) ↔ PentairFirst fs := by
  induction fs with
  | nil => exact ⟨fun _ => isChain_nil, fun _ => isChain_singleton _⟩
  | cons f fs ih =>
    cases fs with
    | nil => simp [BusFrame.isPentair, PentairFirst]
    | cons g fs =>
      rw [cons_append, cons_append, pentairFirst_cons_cons, pentairFirst_cons_cons,
        ← cons_append, ih]

theorem pentairFirst_held_append_iff {p : PentairFrame} (hheld : pentairs held = []) :
    PentairFirst (held ++ .pentair p :: fs) ↔ held = [] ∧ PentairFirst (.pentair p :: fs) := by
  constructor
  · intro h
    cases held with
    | nil => exact ⟨rfl, h⟩
    | cons f held =>
      cases f with
      | pentair q => cases hheld
      | jandy j =>
        have := pentairs_eq_nil_of_pentairFirst rfl h
        simp at this
  · rintro ⟨rfl, h⟩
    exact h

/-- The frames of each protocol keep their order. -/
theorem Emits.kinds (h : Emits held fs rest k out held') (hheld : pentairs held = []) :
    pentairs out = pentairs fs ∧ jandys out ++ held' = held ++ jandys fs := by
  have hjandys := jandys_eq_self_of_pentairs_eq_nil hheld
  cases h with
  | lifted _ =>
    rw [pentairs_lift, jandys_lift, pentairs_append, jandys_append, hheld, hjandys,
      nil_append, append_nil]
    exact ⟨rfl, rfl⟩
  | heldBack _ _ =>
    rw [pentairs_pentairs, jandys_pentairs, pentairs_append, jandys_append, hheld, hjandys]
    exact ⟨rfl, rfl⟩

theorem Emits.inOrder_iff (h : Emits held fs rest k out held') (hheld : pentairs held = [])
    (hstart : held ≠ [] → (k ≠ 0 ∨ fs ≠ []) ∧ ∃ p frames, fs ++ rest = .pentair p :: frames)
    {later : Prop} (horder : order = held' ++ rest ↔ held' = [] ∧ later) :
    out ++ order = held ++ (fs ++ rest) ↔
      held = [] ∧ PentairFirst fs ∧ (k ≠ 0 → PentairFirst (fs ++ rest.take 1)) ∧ later := by
  cases h with
  | lifted hjandy =>
    have hlift : lift (held ++ fs) ++ order = held ++ (fs ++ rest) ↔
        PentairFirst (held ++ fs) ∧ order = rest := by
      rw [← lift_eq_self_iff, ← append_assoc]
      exact ⟨fun h => append_inj h length_lift, fun ⟨h, h'⟩ => by rw [h, h']⟩
    have hbehind : (k ≠ 0 → PentairFirst (fs ++ rest.take 1)) ↔ (k ≠ 0 → PentairFirst fs) := by
      refine imp_congr_right fun hk => ?_
      obtain ⟨j, frames, rfl⟩ := hjandy hk
      exact pentairFirst_append_jandy_iff j
    have hahead : PentairFirst (held ++ fs) ↔ held = [] ∧ PentairFirst fs := by
      by_cases hnone : held = []
      · simp [hnone]
      · obtain ⟨hsome, p, frames, hp⟩ := hstart hnone
        cases fs with
        | nil =>
          obtain ⟨j, frames', rfl⟩ := hjandy (by simpa using hsome)
          cases hp
        | cons f fs =>
          cases hp
          exact pentairFirst_held_append_iff hheld
    have horder' : order = rest ↔ later := by simpa using horder
    rw [hlift, hahead, hbehind, horder', and_assoc]
    exact and_congr_right fun _ =>
      ⟨fun ⟨h, h'⟩ => ⟨h, fun _ => h, h'⟩, fun ⟨h, _, h'⟩ => ⟨h, h'⟩⟩
  | heldBack hk hpentair =>
    obtain ⟨p, frames, rfl⟩ := hpentair
    have hjandys := jandys_eq_self_of_pentairs_eq_nil hheld
    have hbehind : PentairFirst (fs ++ (BusFrame.pentair p :: frames).take 1) ↔ jandys fs = [] :=
      pentairFirst_append_pentair_iff p
    have hnone : jandys (held ++ fs) = [] ↔ held = [] ∧ jandys fs = [] := by
      rw [jandys_append, hjandys, append_eq_nil_iff]
    have hfirst : jandys fs = [] → PentairFirst fs := fun h =>
      (List.isChain_append.mp (hbehind.mpr h)).1
    rw [hbehind, ← append_assoc]
    constructor
    · intro h
      obtain ⟨h', hlater⟩ := horder.mp (eq_jandys_append h)
      obtain ⟨hheld', hfs⟩ := hnone.mp h'
      exact ⟨hheld', hfirst hfs, fun _ => hfs, hlater⟩
    · rintro ⟨hheld', -, hfs, hlater⟩
      have h' := hnone.mpr ⟨hheld', hfs hk⟩
      rw [horder.mpr ⟨h', hlater⟩, h', nil_append, pentairs_eq_self_of_jandys_eq_nil h']

end

/-! ## Reads -/

section

variable {held todo fs rest out order : List BusFrame} {k k' : ℕ} {reads : List (List UInt8)}

/-- One read: some frames complete, and the decode loop leaves the next ones in
flight. -/
theorem deliver_inFlight {s : BusState} {read : List UInt8}
    (hflight : InFlight held todo k s.buffer.bytes) (hheld : ∀ f ∈ held, f.Admissible)
    (htodo : ∀ f ∈ todo, f.Admissible) (hreads : (read :: reads).flatten = (stream todo).drop k)
    (hclean : ∀ q ∈ cutPositions k (read :: reads), inMarker todo q = false)
    (hfit : s.buffer.bytes.length + read.length ≤ serialCircularBufferSize) :
    ∃ fs rest k' out held', todo = fs ++ rest ∧ k + read.length = (stream fs).length + k' ∧
      reads.flatten = (stream rest).drop k' ∧
      (∀ q ∈ cutPositions k' reads, inMarker rest q = false) ∧
      (deliver s read).dispatched = s.dispatched ++ out.map BusFrame.message ∧
      InFlight held' rest k' (deliver s read).buffer.bytes ∧
      Emits held fs rest k' out held' := by
  have hlength := congrArg List.length hreads
  have hle := hflight.le_length
  simp only [flatten_cons, length_append, length_drop] at hlength
  obtain ⟨fs, rest, k', rfl, hk', hbegun⟩ :=
    exists_split_stream todo (n := k + read.length) (by omega)
  have htake : (stream (fs ++ rest)).take k ++ read = stream fs ++ (stream rest).take k' := by
    have hread : read = ((stream (fs ++ rest)).drop k).take read.length := by
      rw [← hreads, flatten_cons, take_left]
    rw [hread, ← take_add, hk', stream_append, take_length_add_append]
  have hdrop : reads.flatten = (stream rest).drop k' := by
    have : reads.flatten = ((stream (fs ++ rest)).drop k).drop read.length := by
      rw [← hreads, flatten_cons, drop_left]
    rw [this, drop_drop, hk', stream_append, drop_length_add_append]
  have hclean' : ∀ q ∈ cutPositions k' reads, inMarker rest q = false := by
    intro q hq
    rw [← inMarker_append fs]
    refine hclean _ (mem_cons_of_mem _ ?_)
    rw [hk']
    exact (add_mem_cutPositions_iff _).mpr hq
  have hbytes : (s.buffer.insert read).bytes = stream (held ++ fs) ++ (stream rest).take k' := by
    rw [insert_bytes_of_fits hfit, hflight.bytes_eq, append_assoc, htake, stream_append,
      append_assoc]
  obtain ⟨hfs, hrest⟩ := List.forall_mem_append.mp htodo
  obtain ⟨out, held', bytes', hdecodes, hflight', hemits⟩ := decodes_inFlight hheld hfs hrest
    (hclean' k' (mem_cutPositions_self k' reads)) hbegun
  have hrun := processMessages_eq (hbytes ▸ hdecodes)
  refine ⟨fs, rest, k', out, held', rfl, hk', hdrop, hclean', ?_, ?_, hemits⟩
  · rw [deliver, hrun]
  · have hbuffer : (deliver s read).buffer.bytes = bytes' := congrArg DecodeState.buffer hrun
    rwa [hbuffer]

theorem deliverAll_inFlight {s : BusState} (hflight : InFlight held todo k s.buffer.bytes)
    (hheld : ∀ f ∈ held, f.Admissible) (htodo : ∀ f ∈ todo, f.Admissible)
    (hreads : reads.flatten = (stream todo).drop k)
    (hclean : ∀ q ∈ cutPositions k reads, inMarker todo q = false) (hfit : ReadsFit s reads) :
    ∃ order, (deliverAll s reads).dispatched = s.dispatched ++ order.map BusFrame.message ∧
      (deliverAll s reads).buffer.bytes = [] ∧
      pentairs order = pentairs todo ∧ jandys order = held ++ jandys todo ∧
      (order = held ++ todo ↔
        held = [] ∧ ∀ q ∈ overtakings todo, q ∈ cutPositions k reads) := by
  induction reads generalizing held todo k s with
  | nil =>
    obtain ⟨rfl, rfl, hempty⟩ := hflight.eq_nil hreads
    refine ⟨[], (append_nil _).symm, hempty, rfl, rfl, ?_⟩
    simp [overtakings]
  | cons read reads ih =>
    obtain ⟨fs, rest, k', out, held', rfl, hk', hreads', hclean', hdispatched, hflight', hemits⟩ :=
      deliver_inFlight hflight hheld htodo hreads hclean hfit.1
    obtain ⟨hfs, hrest⟩ := List.forall_mem_append.mp htodo
    have hheld' : ∀ f ∈ held', f.Admissible := by
      cases hemits with
      | lifted _ => exact forall_mem_nil _
      | heldBack _ _ =>
        exact fun f hf => List.forall_mem_append.mpr ⟨hheld, hfs⟩ f (mem_of_mem_filter hf)
    obtain ⟨order, horder, hempty, hpentairs, hjandys, hinOrder⟩ :=
      ih hflight' hheld' hrest hreads' hclean' hfit.2
    obtain ⟨hpentairs', hjandys'⟩ := hemits.kinds hflight.pentairs_held
    refine ⟨out ++ order, ?_, hempty, ?_, ?_, ?_⟩
    · rw [deliverAll, foldl_cons, ← deliverAll, horder, hdispatched, append_assoc, map_append]
    · rw [pentairs_append, pentairs_append, hpentairs, hpentairs']
    · rw [jandys_append, jandys_append, hjandys, ← append_assoc, hjandys', append_assoc]
    · have hcuts : (∀ q ∈ overtakings (fs ++ rest), q ∈ cutPositions k (read :: reads)) ↔
          ∀ q ∈ overtakings (fs ++ rest), q ∈ cutPositions ((stream fs).length + k') reads := by
        refine forall₂_congr fun q hq => ?_
        have hne := hflight.ne_of_mem_overtakings hq
        rw [cutPositions, hk', mem_cons, or_iff_right hne]
      rw [hcuts, overtakings_append_cut_iff]
      exact hemits.inOrder_iff hflight.pentairs_held (hflight.pentair_of_held hk') hinOrder

end

/-! ## The mixed bus -/

theorem length_wire_le (f : BusFrame) : f.wire.length ≤ 265 := by
  cases f with
  | jandy f => exact f.fits.trans (by decide)
  | pentair f =>
    have := f.dataFits
    rw [BusFrame.wire, f.length_wire]
    omega

theorem deliverAll_wires {frames : List BusFrame} (hframes : ∀ f ∈ frames, f.Admissible)
    {s : BusState} (hempty : s.buffer.bytes = []) :
    (deliverAll s (frames.map BusFrame.wire)).dispatched =
      s.dispatched ++ frames.map BusFrame.message := by
  induction frames generalizing s with
  | nil => simp [deliverAll]
  | cons f frames ih =>
    obtain ⟨hf, hframes'⟩ := List.forall_mem_cons.mp hframes
    have hbytes : (s.buffer.insert f.wire).bytes = stream [f] ++ [] := by
      have hfits : s.buffer.bytes.length + f.wire.length ≤ serialCircularBufferSize := by
        rw [hempty]
        exact (Nat.add_le_add_left (length_wire_le f) _).trans (by decide)
      rw [insert_bytes_of_fits hfits, hempty]
      simp
    have hrun : processMessages mixedBus (s.buffer.insert f.wire).bytes = ⟨[], [f.message]⟩ := by
      have hlift : lift [f] = [f] := lift_eq_self_iff.mpr (isChain_singleton f)
      rw [hbytes, processMessages_eq (decodes_lift (by simpa using hf) (by decide) decodes_nil),
        hlift]
      rfl
    have hbuffer : (deliver s f.wire).buffer.bytes = [] := congrArg DecodeState.buffer hrun
    rw [map_cons, deliverAll, foldl_cons, ← deliverAll, ih hframes' hbuffer, deliver,
      hrun, append_assoc]
    rfl

section

variable {order frames : List BusFrame} (hpentairs : pentairs order = pentairs frames)
  (hjandys : jandys order = jandys frames)

include hpentairs hjandys

theorem eq_of_kinds (hmessages : order.map BusFrame.message = frames.map BusFrame.message) :
    order = frames := by
  induction order generalizing frames with
  | nil => exact (List.map_eq_nil_iff.mp hmessages.symm).symm
  | cons f order ih =>
    cases frames with
    | nil => cases hmessages
    | cons g frames =>
      rw [map_cons, map_cons, List.cons.injEq] at hmessages
      obtain ⟨hmessage, hmessages⟩ := hmessages
      cases f with
      | jandy f =>
        cases g with
        | pentair g => cases hmessage
        | jandy g =>
          rw [jandys_cons_jandy, jandys_cons_jandy, List.cons.injEq] at hjandys
          rw [pentairs_cons_jandy, pentairs_cons_jandy] at hpentairs
          rw [hjandys.1, ih hpentairs hjandys.2 hmessages]
      | pentair f =>
        cases g with
        | jandy g => cases hmessage
        | pentair g =>
          rw [pentairs_cons_pentair, pentairs_cons_pentair, List.cons.injEq] at hpentairs
          rw [jandys_cons_pentair, jandys_cons_pentair] at hjandys
          rw [hpentairs.1, ih hpentairs.2 hjandys hmessages]

theorem perm_of_kinds : order.Perm frames := by
  have horder := filter_append_perm BusFrame.isPentair order
  have hframes := filter_append_perm BusFrame.isPentair frames
  rw [← pentairs, ← jandys, hpentairs, hjandys] at horder
  exact horder.symm.trans hframes

end

/-- **The mixed bus under every cut outside the markers.**  Every frame is decoded
exactly once, and the frames of each protocol come in their order.  The frames come
as if each had been a read of its own exactly when every Pentair frame that directly
follows a Jandy frame starts a new read. -/
theorem mixedBus_decodes {frames : List BusFrame} {reads : List (List UInt8)}
    (hframes : ∀ f ∈ frames, f.Admissible) (hreads : reads.flatten = stream frames)
    (hclean : ∀ q ∈ cutPositions 0 reads, inMarker frames q = false)
    (hfit : ReadsFit {} reads) :
    (deliverAll {} (frames.map BusFrame.wire)).dispatched = frames.map BusFrame.message ∧
      (∃ order : List BusFrame, (deliverAll {} reads).dispatched = order.map BusFrame.message ∧
        order.Perm frames ∧ pentairs order = pentairs frames ∧ jandys order = jandys frames) ∧
      ((deliverAll {} reads).dispatched =
          (deliverAll {} (frames.map BusFrame.wire)).dispatched ↔
        ∀ q ∈ overtakings frames, q ∈ cutPositions 0 reads) := by
  have hwires := deliverAll_wires hframes (s := {}) rfl
  obtain ⟨order, hdispatched, -, hpentairs, hjandys, hinOrder⟩ :=
    deliverAll_inFlight (s := {}) inFlight_nil (forall_mem_nil _) hframes hreads hclean hfit
  rw [nil_append] at hwires hdispatched hjandys hinOrder
  refine ⟨hwires, ⟨order, hdispatched, perm_of_kinds hpentairs hjandys, hpentairs, hjandys⟩, ?_⟩
  have hmessages : order.map BusFrame.message = frames.map BusFrame.message ↔ order = frames :=
    ⟨eq_of_kinds hpentairs hjandys, fun h => by rw [h]⟩
  rw [hdispatched, hwires, hmessages, hinOrder]
  exact and_iff_right rfl

def probeAndPumpRemote : List BusFrame := [.jandy probeFrame, .pentair pumpRemoteFrame]

/-- A cut between the frames keeps the order, although the second frame is cut too. -/
theorem mixedBus_decodes_cut :
    (deliverAll {} [probeFrame.wire, pumpRemoteFrame.wire.take 5,
        pumpRemoteFrame.wire.drop 5]).dispatched =
      (deliverAll {} (probeAndPumpRemote.map BusFrame.wire)).dispatched := by
  have hframes : ∀ f ∈ probeAndPumpRemote, f.Admissible := by decide
  have hclean : ∀ q ∈ cutPositions 0 [probeFrame.wire, pumpRemoteFrame.wire.take 5,
      pumpRemoteFrame.wire.drop 5], inMarker probeAndPumpRemote q = false := by decide
  exact (mixedBus_decodes hframes (by decide) hclean (readsFit_of_length_le (by decide))).2.2.mpr
    (by decide)

/-- In one read the second frame overtakes the first. -/
theorem mixedBus_decodes_uncut :
    (∀ f ∈ probeAndPumpRemote, f.Admissible) ∧
      (deliverAll {} [stream probeAndPumpRemote]).dispatched ≠
        probeAndPumpRemote.map BusFrame.message := by
  have hframes : ∀ f ∈ probeAndPumpRemote, f.Admissible := by decide
  refine ⟨hframes, ?_⟩
  have hdecodes : Decodes mixedBus (stream probeAndPumpRemote ++ [])
      ((lift probeAndPumpRemote).map BusFrame.message) [] :=
    decodes_lift hframes (by decide) decodes_nil
  have hrun := processMessages_eq hdecodes
  rw [append_nil] at hrun
  have hbytes : (SerialBuffer.insert {} (stream probeAndPumpRemote)).bytes =
      stream probeAndPumpRemote := by decide
  rw [deliverAll, foldl_cons, foldl_nil, deliver, hbytes, hrun]
  decide

end AqualinkAutomate.Protocol
