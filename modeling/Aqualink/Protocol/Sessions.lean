import Aqualink.Developer.RecordReplay
import Aqualink.Protocol.MixedBus
import Aqualink.Protocol.WritePath

/-!
# From a writer, or a recording, to the messages

The bytes of a stream of frames that have arrived so far make up some whole frames and the beginning
of the next one.  The whole frames have been dispatched, each once, except the Jandy frames that a
Pentair frame holds up of which only the beginning is there (`DispatchesWhole`).

That is so at every moment of every way to read the stream that does not cut a marker.  What a port
has accepted from the write queue is the beginning of the stream of the queued frames, and what is
replayed of a recording is the beginning of the stream that was recorded.
-/

namespace AqualinkAutomate.Protocol

open General Jandy Pentair Developer List

/-- Of the frames `sent` have been received whole, and of these all but `held` are dispatched. -/
def DispatchesWhole (frames : List BusFrame) (received : List UInt8)
    (dispatched : List ProtocolMessage) : Prop :=
  ∃ sent rest held order, frames = sent ++ rest ∧ stream sent <+: received ∧
    (∀ f ∈ rest.head?, received.length < (stream sent).length + f.wire.length) ∧
    dispatched = order.map BusFrame.message ∧ pentairs order = pentairs sent ∧
    jandys order ++ held = jandys sent ∧
    (held ≠ [] → (stream sent).length < received.length ∧ ∃ f ∈ rest.head?, f.isPentair = true)

section

variable {held todo frames : List BusFrame} {k : ℕ} {s : BusState} {reads later : List (List UInt8)}

theorem cutPositions_concat (k : ℕ) (reads : List (List UInt8)) (read : List UInt8) :
    cutPositions k (reads ++ [read]) =
      cutPositions k reads ++ [k + (reads ++ [read]).flatten.length] := by
  induction reads generalizing k with
  | nil => simp [cutPositions]
  | cons first reads ih => simp [cutPositions, ih, Nat.add_assoc]

theorem length_wire_pos (f : BusFrame) : 0 < f.wire.length := by
  cases f with
  | jandy f => rw [BusFrame.wire, f.length_wire]; omega
  | pentair f => rw [BusFrame.wire, f.length_wire]; omega

/-- The reads so far, of a stream that goes on. -/
theorem deliverAll_inFlight_append (hflight : InFlight held todo k s.buffer.bytes)
    (hheld : ∀ f ∈ held, f.Admissible) (htodo : ∀ f ∈ todo, f.Admissible)
    (hreads : (reads ++ later).flatten = (stream todo).drop k)
    (hclean : ∀ q ∈ cutPositions k (reads ++ later), inMarker todo q = false)
    (hfit : ReadsFit s reads) :
    ∃ fs rest k' order held', todo = fs ++ rest ∧
      k + reads.flatten.length = (stream fs).length + k' ∧
      (deliverAll s reads).dispatched = s.dispatched ++ order.map BusFrame.message ∧
      InFlight held' rest k' (deliverAll s reads).buffer.bytes ∧
      pentairs order = pentairs fs ∧ jandys order ++ held' = held ++ jandys fs := by
  induction reads generalizing held todo k s with
  | nil =>
    exact ⟨[], todo, k, [], held, rfl, by simp, (append_nil _).symm, hflight, rfl,
      (append_nil _).symm⟩
  | cons read reads ih =>
    obtain ⟨fs, rest, k', out, held', rfl, hk', hreads', hclean', hdispatched, hflight', hemits⟩ :=
      deliver_inFlight hflight hheld htodo hreads hclean hfit.1
    obtain ⟨hfs, hrest⟩ := List.forall_mem_append.mp htodo
    obtain ⟨hpentairs, hjandys⟩ := hemits.kinds hflight.pentairs_held
    have hheld' : ∀ f ∈ held', f.Admissible := by
      cases hemits with
      | lifted _ => exact forall_mem_nil _
      | heldBack _ _ =>
        exact fun f hf => List.forall_mem_append.mpr ⟨hheld, hfs⟩ f (mem_of_mem_filter hf)
    obtain ⟨fs', rest, k'', order, held'', rfl, hk'', horder, hflight'', hpentairs', hjandys'⟩ :=
      ih hflight' hheld' hrest hreads' hclean' hfit.2
    refine ⟨fs ++ fs', rest, k'', out ++ order, held'', (append_assoc ..).symm, ?_, ?_,
      hflight'', ?_, ?_⟩
    · rw [flatten_cons, length_append, ← Nat.add_assoc, hk', Nat.add_assoc, hk'',
        stream_append, length_append, Nat.add_assoc]
    · rw [deliverAll, foldl_cons, ← deliverAll, horder, hdispatched, append_assoc, map_append]
    · rw [pentairs_append, pentairs_append, hpentairs, hpentairs']
    · rw [jandys_append, jandys_append, append_assoc, hjandys', ← append_assoc, hjandys,
        append_assoc]

theorem deliverAll_dispatchesWhole (hframes : ∀ f ∈ frames, f.Admissible)
    (hreceived : reads.flatten <+: stream frames)
    (hclean : ∀ q ∈ cutPositions 0 reads, inMarker frames q = false) (hfit : ReadsFit {} reads) :
    DispatchesWhole frames reads.flatten (deliverAll {} reads).dispatched := by
  obtain ⟨unread, hunread⟩ := hreceived
  have hall : (reads ++ [unread]).flatten = (stream frames).drop 0 := by simpa using hunread
  have hclean' : ∀ q ∈ cutPositions 0 (reads ++ [unread]), inMarker frames q = false := by
    intro q hq
    rw [cutPositions_concat, mem_append, mem_singleton] at hq
    obtain hq | rfl := hq
    · exact hclean q hq
    · -- behind the last frame there is no marker
      simpa [hall, inMarker] using inMarker_append frames [] 0
  obtain ⟨sent, rest, cut, order, held, rfl, hcut, hdispatched, hflight, hpentairs, hjandys⟩ :=
    deliverAll_inFlight_append (s := {}) inFlight_nil (forall_mem_nil _) hframes hall hclean'
      hfit
  rw [Nat.zero_add] at hcut
  refine ⟨sent, rest, held, order, rfl, ?_, ?_, hdispatched, hpentairs, hjandys, fun hheld => ?_⟩
  · refine prefix_of_prefix_length_le ?_ ⟨unread, hunread⟩ (by omega)
    exact stream_append sent rest ▸ prefix_append _ _
  · intro f hf
    by_cases hzero : cut = 0
    · have hwire := length_wire_pos f
      omega
    · obtain ⟨g, frames, rfl, hlt, -⟩ := hflight.begun hzero
      cases hf
      omega
  · have hcut' : cut ≠ 0 := fun h => hheld (hflight.held_of_zero h)
    obtain ⟨g, frames, rfl, hlt, hjandy⟩ := hflight.begun hcut'
    refine ⟨by omega, g, rfl, ?_⟩
    by_contra hg
    exact hheld (hjandy (Bool.eq_false_iff.mpr hg))

end

variable {reads : List (List UInt8)} {frames : List BusFrame}

/-- **From the write queue to the messages.**  However frames are queued and drained and whatever
the writes do, the receiver has dispatched the frames that the port has accepted whole. -/
theorem written_dispatched {events : List WriteEvent} (hframes : ∀ f ∈ frames, f.Admissible)
    (hevents : enqueued events = frames.map BusFrame.wire)
    (hreads : reads.flatten = (writeRun {} events).accepted)
    (hclean : ∀ q ∈ cutPositions 0 reads, inMarker frames q = false) (hfit : ReadsFit {} reads) :
    DispatchesWhole frames (writeRun {} events).accepted (deliverAll {} reads).dispatched := by
  obtain ⟨written, hintact⟩ := writeRun_intact events initial_intact
  have haccepted := hintact.accepted_isPrefix
  rw [nil_append, hevents, ← flatMap_def] at haccepted
  rw [← hreads] at haccepted ⊢
  exact deliverAll_dispatchesWhole hframes haccepted hclean hfit

/-- The second frame is queued while the first is half written, and is half written itself. -/
theorem half_written_dispatched :
    DispatchesWhole probeAndPumpRemote
      (writeRun {} [.enqueue probeFrame.wire, .drain [.accepted 4, .wouldBlock],
        .enqueue pumpRemoteFrame.wire, .drain [.accepted 90, .accepted 5]]).accepted
      (deliverAll {} [probeFrame.wire, pumpRemoteFrame.wire.take 5]).dispatched :=
  written_dispatched (by decide) (by decide) (by decide) (by decide)
    (readsFit_of_length_le (by decide))

theorem flatten_isPrefix_of_cut {α : Type*} {pieces : List α} {sizes : List ℕ}
    {reads : List (List α)} (h : cut pieces sizes = reads.map some) : reads.flatten <+: pieces := by
  induction sizes generalizing pieces reads with
  | nil =>
    have hnone : reads = [] := by simpa [cut] using h.symm
    exact hnone ▸ nil_prefix
  | cons size sizes ih =>
    cases pieces with
    | nil => cases reads <;> simp_all [cut]
    | cons piece pieces =>
      cases reads with
      | nil => simp [cut] at h
      | cons read reads =>
        simp only [cut, map_cons, List.cons.injEq, Option.some.injEq] at h
        obtain ⟨rfl, hlater⟩ := h
        have hall := (prefix_append_right_inj ((piece :: pieces).take size)).mpr (ih hlater)
        rwa [take_append_drop] at hall

/-- **From a recording to the messages.**  While a recorded stream is replayed, in reads that fit
and do not end inside a start marker, the frames that have been replayed whole are dispatched. -/
theorem replayed_dispatched {zeroFill : Bool} {time : Option TimeText}
    {calls : List (ℕ × PortCall)} {sizes : List ℕ} (hframes : ∀ f ∈ frames, f.Admissible)
    (hopen : EachState Recorder.call (fun recorder => recorder.enabled) (.started zeroFill time)
      calls)
    (hplain : ∀ call ∈ calls, ∀ deviceName ∈ call.2.openedNames, PlainName deviceName)
    (hrecorded : (calls.flatMap fun call => call.2.bytesRead) = stream frames)
    (hsizes : ∀ size ∈ sizes, 0 < size)
    (hreads :
      (ReplayFile.ofText (fileText (recordedFile zeroFill time calls))).handleFileReads sizes =
      reads.map some)
    (hclean : ∀ q ∈ cutPositions 0 reads, inMarker frames q = false) (hfit : ReadsFit {} reads) :
    DispatchesWhole frames reads.flatten (deliverAll {} reads).dispatched := by
  have hstray : ∀ call ∈ calls, call.2.strayBytes = [] := fun call hcall =>
    List.flatMap_eq_nil_iff.mpr fun name hname =>
      (strayBytes_eq_nil_iff name).mpr (hplain call hcall name hname)
  rw [ReplayFile.handleFileReads, BufferedSource.reads_eq _ hsizes, contents_recordedFile hopen,
    flatMap_append_eq_iff.mpr hstray, hrecorded] at hreads
  exact deliverAll_dispatchesWhole hframes (flatten_isPrefix_of_cut hreads) hclean hfit

/-- Two frames are recorded in one read, and replayed in two. -/
theorem replayed_in_two_dispatched :
    DispatchesWhole probeAndPumpRemote (stream probeAndPumpRemote)
      (deliverAll {} [probeFrame.wire, pumpRemoteFrame.wire]).dispatched := by
  have hopen : EachState Recorder.call (fun recorder => recorder.enabled)
    (.started false none) [(0, .readSome (stream probeAndPumpRemote) false)] := ⟨rfl, rfl⟩
  have hreads : (ReplayFile.ofText (fileText (recordedFile false none
      [(0, .readSome (stream probeAndPumpRemote) false)]))).handleFileReads
        [probeFrame.wire.length, 64] = [probeFrame.wire, pumpRemoteFrame.wire].map some := by
    rw [ReplayFile.handleFileReads, BufferedSource.reads_eq _ (by decide),
      contents_recordedFile hopen]
    decide
  exact replayed_dispatched (by decide) hopen (by simp [PortCall.openedNames]) (by decide)
    (by decide) hreads (by decide) (readsFit_of_length_le (by decide))

end AqualinkAutomate.Protocol
