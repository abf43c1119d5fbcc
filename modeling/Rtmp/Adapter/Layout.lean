import Rtmp.Adapter.Heard
import Rtmp.Adapter.Multitrack
import Rtmp.Lib.Numbering

/-!
The streams of a packet source: which track is on which stream.

* `MediaSourceEvent.sighted`: the tracks that a message is for;
* `layout`: the index of each track, from the tracks that were sighted: 0 and 1 for the default
  ones, and the others are numbered from 2 as they are first seen;
* `Bridge.LaidOut`: the tracks and the streams of the bridge are those of the sighted tracks;
* `LaidOut.track`, `trackPackets_lays`, `convert_lays`: a track, the tracks of a message, and an event
  keep this, and put their packets on streams that are there;
* `PacketSource.layout_stable` (**the layout**): so does every number of calls, and no index and no
  stream ever changes.
-/

namespace Rtmp

open Flv Numbering

/-! ### The tracks of messages -/

/-- The tracks of a message, with its kind; a message that cannot be taken apart has none. -/
def MediaKind.sighted {T : Type} (k : MediaKind T) (tag : T) : List (Bool × UInt8) :=
  if k.isMultitrack tag then
    ((k.demuxTracks tag).toOption.getD []).map fun track => (k.isAudio, track.1)
  else [(k.isAudio, 0)]

def MediaSourceEvent.sighted : MediaSourceEvent → List (Bool × UInt8)
  | audio _ tag => audioMedia.sighted tag
  | video _ tag => videoMedia.sighted tag
  | _ => []

/-- The tracks that are not default ones. -/
def extras (seen : List (Bool × UInt8)) : List (Bool × UInt8) := seen.filter fun track => track.2 ≠ 0

/-- The index of a track. -/
def layout (seen : List (Bool × UInt8)) (track : Bool × UInt8) : Option ℕ :=
  if track.2 = 0 then some (if track.1 then 0 else 1) else (number (extras seen) track).map (2 + ·)

section Layout

variable {seen : List (Bool × UInt8)} {track track' : Bool × UInt8} {i : ℕ}

lemma layout_default (h : track.2 = 0) : layout seen track = some (if track.1 then 0 else 1) := if_pos h

lemma layout_extra (h : track.2 ≠ 0) : layout seen track = (number (extras seen) track).map (2 + ·) :=
  if_neg h

lemma mem_extras (h : track.2 ≠ 0) : track ∈ extras seen ↔ track ∈ seen := by
  rw [extras, List.mem_filter, decide_eq_true h]
  exact and_iff_left rfl

lemma extras_append (seen more : List (Bool × UInt8)) :
    extras (seen ++ more) = extras seen ++ extras more := List.filter_append ..

/-- A track has its index for good. -/
lemma layout_mono (h : layout seen track = some i) (more : List (Bool × UInt8)) :
    layout (seen ++ more) track = some i := by
  by_cases hdefault : track.2 = 0
  · rw [layout_default hdefault] at h ⊢
    exact h
  · rw [layout_extra hdefault] at h ⊢
    obtain ⟨j, hj, rfl⟩ := Option.map_eq_some_iff.mp h
    rw [extras_append, number_mono hj]
    rfl

/-- A track that was sighted has an index. -/
lemma layout_isSome (h : track ∈ seen) : ∃ i, layout seen track = some i := by
  by_cases hdefault : track.2 = 0
  · exact ⟨_, layout_default hdefault⟩
  · obtain ⟨j, hj⟩ := Option.ne_none_iff_exists'.mp
      (mt number_eq_none.mp (not_not.mpr ((mem_extras hdefault).mpr h)))
    exact ⟨2 + j, by rw [layout_extra hdefault, hj]; rfl⟩

/-- No two tracks have one index. -/
lemma layout_inj (h : layout seen track = some i) (h' : layout seen track' = some i) :
    track = track' := by
  by_cases hdefault : track.2 = 0 <;> by_cases hdefault' : track'.2 = 0
  · rw [layout_default hdefault, Option.some.injEq] at h
    rw [layout_default hdefault', Option.some.injEq] at h'
    have hkind : track.1 = track'.1 := by
      rw [← h'] at h
      split_ifs at h with hfirst hsecond hsecond
      · rw [hfirst, hsecond]
      · rw [Bool.eq_false_of_not_eq_true hfirst, Bool.eq_false_of_not_eq_true hsecond]
    exact Prod.ext hkind (hdefault.trans hdefault'.symm)
  · rw [layout_default hdefault, Option.some.injEq] at h
    rw [layout_extra hdefault'] at h'
    obtain ⟨j, -, rfl⟩ := Option.map_eq_some_iff.mp h'
    split_ifs at h <;> omega
  · rw [layout_extra hdefault] at h
    rw [layout_default hdefault', Option.some.injEq] at h'
    obtain ⟨j, -, rfl⟩ := Option.map_eq_some_iff.mp h
    split_ifs at h' <;> omega
  · rw [layout_extra hdefault] at h
    rw [layout_extra hdefault'] at h'
    obtain ⟨j, hj, rfl⟩ := Option.map_eq_some_iff.mp h
    obtain ⟨j', hj', heq⟩ := Option.map_eq_some_iff.mp h'
    obtain rfl : j = j' := by omega
    exact number_inj hj hj'

/-- The others have the numbers from 2, in the order in which they were first seen. -/
lemma layout_eq_some_iff (h : track.2 ≠ 0) : layout seen track = some i ↔
    ∃ before later, seen = before ++ track :: later ∧ track ∉ before ∧
      i = 2 + (order (extras before)).length := by
  have hsplit : ∀ before later, track ∉ before →
      layout (before ++ track :: later) track = some (2 + (order (extras before)).length) := by
    intro before later hnew
    rw [List.append_cons]
    refine layout_mono ?_ later
    have hsnoc : extras (before ++ [track]) = extras before ++ [track] := by
      rw [extras_append, show extras [track] = [track] from List.filter_cons_of_pos (decide_eq_true h)]
    rw [layout_extra h, hsnoc, number_snoc_self (mt (mem_extras h).mp hnew)]
    rfl
  constructor
  · intro hsome
    have hmem : track ∈ seen := by
      rw [← mem_extras h]
      by_contra hnot
      rw [layout_extra h, number_eq_none.mpr hnot] at hsome
      cases hsome
    obtain ⟨before, later, rfl, hnew⟩ := List.eq_append_cons_of_mem hmem
    exact ⟨before, later, rfl, hnew, Option.some.inj (hsome.symm.trans (hsplit before later hnew))⟩
  · rintro ⟨before, later, rfl, hnew, rfl⟩
    exact hsplit before later hnew

end Layout

/-! ### The tracks and the streams of a bridge -/

/-- What is kept of a track that is not a default one and has the number `i`. -/
def TrackStreams.entry (numbered : (Bool × UInt8) × ℕ) : Bool × UInt8 × UInt32 :=
  (numbered.1.1, numbered.1.2, 2 + UInt32.ofNat numbered.2)

/-- The tracks are those sighted, in their order, and there is a stream for each of them. -/
structure Bridge.LaidOut (seen : List (Bool × UInt8)) (b : Bridge) : Prop where
  tracks : b.tracks.extra = (order (extras seen)).zipIdx.map TrackStreams.entry
  sorted : b.streams.Pairwise fun s t => s.index < t.index
  registered : ∀ i, (∃ s ∈ b.streams, s.index.toNat = i) ↔ ∃ track ∈ seen, layout seen track = some i

/-- There is a stream of that index. -/
def Bridge.Registered (b : Bridge) (index : UInt32) : Prop := ∃ s ∈ b.streams, s.index = index

/-- There are few enough tracks for 32-bit numbers. -/
lemma length_order_extras_le (seen : List (Bool × UInt8)) : (order (extras seen)).length ≤ 512 := by
  have hinj : Function.Injective fun track : Bool × UInt8 => (track.1, track.2.toFin) :=
    fun track track' h => by
      obtain ⟨hkind, hid⟩ := Prod.mk.inj h
      exact Prod.ext hkind (UInt8.toFin_inj.mp hid)
  have hle := length_order_le (extras seen) hinj
  rwa [Fintype.card_prod, Fintype.card_bool, Fintype.card_fin] at hle

lemma toNat_trackIndex {n : ℕ} (h : n ≤ 512) : (2 + UInt32.ofNat n : UInt32).toNat = 2 + n := by
  rw [UInt32.toNat_add, UInt32.toNat_ofNat']
  have hsmall : (2 : UInt32).toNat = 2 := rfl
  omega

/-! ### One stream -/

section Streams

variable {streams : List StreamInfo} {index : UInt32} {params : CodecParameters}

lemma exists_ensureStream {p : UInt32 → Prop} :
    (∃ s ∈ ensureStream streams index params, p s.index) ↔
      (∃ s ∈ streams, p s.index) ∨ p index := by
  rw [ensureStream]
  split_ifs with h
  · simp only [sortStreams, List.mem_mergeSort, List.mem_append, List.mem_singleton, or_and_right,
      exists_or, exists_eq_left]
  · rw [List.all_eq_true] at h
    push Not at h
    obtain ⟨s, hs, hindex⟩ := h
    have hsame : s.index = index := by simpa using hindex
    exact (or_iff_left_of_imp fun hp => ⟨s, hs, hsame ▸ hp⟩).symm

/-- A stream goes between the others, which stay. -/
lemma sublist_ensureStream (h : streams.Pairwise fun s t => s.index ≤ t.index) :
    streams.Sublist (ensureStream streams index params) := by
  rw [ensureStream]
  split_ifs
  · refine List.sublist_mergeSort (fun a b c hab hbc => ?_) (fun a b => ?_) ?_
      (List.sublist_append_left _ _)
    · rw [decide_eq_true_eq] at hab hbc ⊢
      exact UInt32.le_trans hab hbc
    · rw [Bool.or_eq_true, decide_eq_true_eq, decide_eq_true_eq]
      exact UInt32.le_total a.index b.index
    · simpa only [decide_eq_true_eq] using h
  · exact List.Sublist.refl _

/-- There is at most one stream of each index. -/
lemma strict_ensureStream (h : streams.Pairwise fun s t => s.index < t.index) :
    (ensureStream streams index params).Pairwise fun s t => s.index < t.index := by
  rw [ensureStream]
  split_ifs with hnew
  · have hsorted := sorted_sortStreams (streams ++ [⟨index, rtmpTimeBase, none, none, params⟩])
    have hdistinct : (sortStreams (streams ++ [⟨index, rtmpTimeBase, none, none, params⟩])).Pairwise
        fun s t => s.index ≠ t.index := by
      rw [sortStreams, (List.mergeSort_perm _ _).pairwise_iff fun hne => hne.symm,
        List.pairwise_append]
      refine ⟨h.imp fun hlt => (UInt32.ne_of_lt hlt), List.pairwise_singleton _ _, fun s hs t ht => ?_⟩
      rw [List.mem_singleton.mp ht]
      have hall := List.all_eq_true.mp hnew s hs
      simpa using hall
    exact (hsorted.and hdistinct).imp fun hboth => UInt32.lt_of_le_of_ne hboth.1 hboth.2
  · exact h

end Streams

/-! ### One track -/

namespace Bridge.LaidOut

variable {seen : List (Bool × UInt8)} {b : Bridge}

lemma new : Bridge.new.LaidOut [] where
  tracks := rfl
  sorted := .nil
  registered _ := iff_of_false (fun ⟨_, h, _⟩ => nomatch h) (fun ⟨_, h, _⟩ => nomatch h)

/-- The tracks of the bridge are found where they were numbered. -/
lemma lookup (h : b.LaidOut seen) (isAudio : Bool) (trackId : UInt8) :
    (b.tracks.lookup isAudio trackId).map UInt32.toNat = layout seen (isAudio, trackId) := by
  by_cases hdefault : trackId = 0
  · rw [TrackStreams.lookup, if_pos hdefault, layout_default hdefault]
    cases isAudio <;> rfl
  · have hentry : ∀ t : (Bool × UInt8) × ℕ, decide ((TrackStreams.entry t).1 = isAudio ∧
        (TrackStreams.entry t).2.1 = trackId) = decide (t.1 = (isAudio, trackId)) :=
      fun t => decide_eq_decide.mpr (@Prod.ext_iff _ _ t.1 (isAudio, trackId)).symm
    rw [TrackStreams.lookup, if_neg hdefault, h.tracks, find?_numbered hentry, layout_extra hdefault]
    rcases hnumber : number (extras seen) (isAudio, trackId) with _ | i
    · rfl
    · have hsmall := (number_lt hnumber).le.trans (length_order_extras_le seen)
      simp only [Option.map_some, TrackStreams.entry, toNat_trackIndex hsmall]

/-- Looking a track up gives it its index, and numbers it if need be. -/
lemma index (h : b.LaidOut seen) (isAudio : Bool) (trackId : UInt8) :
    (b.tracks.index isAudio trackId).2.extra
        = (order (extras (seen ++ [(isAudio, trackId)]))).zipIdx.map TrackStreams.entry ∧
      layout (seen ++ [(isAudio, trackId)]) (isAudio, trackId)
        = some (b.tracks.index isAudio trackId).1.toNat := by
  have hlookup := h.lookup isAudio trackId
  rw [TrackStreams.index]
  rcases hfound : b.tracks.lookup isAudio trackId with _ | idx
  · rw [hfound, Option.map_none] at hlookup
    -- the track is new, and gets the index behind the last one
    have hdefault : trackId ≠ 0 := by
      rintro rfl
      rw [layout_default rfl] at hlookup
      cases hlookup
    have hsnoc : extras (seen ++ [(isAudio, trackId)]) = extras seen ++ [(isAudio, trackId)] := by
      rw [extras_append]
      exact congrArg _ (List.filter_cons_of_pos (decide_eq_true hdefault))
    have hnew : (isAudio, trackId) ∉ extras seen := by
      rw [layout_extra hdefault, eq_comm, Option.map_eq_none_iff] at hlookup
      exact number_eq_none.mp hlookup
    have hlen : b.tracks.extra.length = (order (extras seen)).length := by
      rw [h.tracks, List.length_map, List.length_zipIdx]
    constructor
    · rw [hsnoc, order_snoc, if_neg hnew, List.zipIdx_append, List.map_append, ← h.tracks]
      simp [TrackStreams.entry, hlen]
    · rw [layout_extra hdefault, hsnoc, number_snoc_self hnew, hlen, Option.map_some]
      rw [toNat_trackIndex (length_order_extras_le seen)]
  · rw [hfound, Option.map_some] at hlookup
    -- the track is known, and the table stays as it is
    refine ⟨?_, layout_mono hlookup.symm _⟩
    rw [h.tracks, extras_append]
    by_cases hdefault : trackId = 0
    · rw [show extras [(isAudio, trackId)] = [] from List.filter_cons_of_neg (by simpa using hdefault)]
      rw [List.append_nil]
    · rw [show extras [(isAudio, trackId)] = [(isAudio, trackId)] from
        List.filter_cons_of_pos (decide_eq_true hdefault)]
      rw [layout_extra hdefault] at hlookup
      obtain ⟨i, hi, -⟩ := Option.map_eq_some_iff.mp hlookup.symm
      rw [order_snoc, if_pos]
      by_contra hnew
      rw [number_eq_none.mpr hnew] at hi
      cases hi

/-- A track is registered: nothing that was there changes. -/
lemma track (h : b.LaidOut seen) (isAudio : Bool) (trackId : UInt8) (params : CodecParameters) :
    let r := b.tracks.index isAudio trackId
    let b' := { b with tracks := r.2, streams := ensureStream b.streams r.1 params }
    b'.LaidOut (seen ++ [(isAudio, trackId)]) ∧ b.streams.Sublist b'.streams ∧ b'.Registered r.1 := by
  intro r b'
  obtain ⟨htracks, hlayout⟩ := h.index isAudio trackId
  have hmono : ∀ track ∈ seen, layout (seen ++ [(isAudio, trackId)]) track = layout seen track := by
    intro track htrack
    obtain ⟨i, hi⟩ := layout_isSome htrack
    rw [hi, layout_mono hi]
  refine ⟨⟨htracks, strict_ensureStream h.sorted, fun i => ?_⟩,
    sublist_ensureStream (h.sorted.imp UInt32.le_of_lt),
    (exists_ensureStream (p := fun index => index = r.1)).mpr (.inr rfl)⟩
  calc (∃ s ∈ b'.streams, s.index.toNat = i)
      ↔ (∃ s ∈ b.streams, s.index.toNat = i) ∨ r.1.toNat = i :=
        exists_ensureStream (p := fun index => index.toNat = i)
    _ ↔ (∃ track ∈ seen, layout seen track = some i) ∨
          layout (seen ++ [(isAudio, trackId)]) (isAudio, trackId) = some i := by
        rw [h.registered, hlayout, Option.some.injEq]
    _ ↔ ∃ track ∈ seen ++ [(isAudio, trackId)],
          layout (seen ++ [(isAudio, trackId)]) track = some i := by
        simp only [List.mem_append, List.mem_singleton, or_and_right, exists_or, exists_eq_left]
        refine or_congr_left (exists_congr fun track => and_congr_right fun htrack => ?_)
        rw [hmono track htrack]

end Bridge.LaidOut

/-! ### Messages -/

/-- `more` was sighted as well, the streams from before are there, and so are those of the packets. -/
structure Bridge.Lays (seen more : List (Bool × UInt8)) (b b' : Bridge) (packets : List Packet) :
    Prop where
  laidOut : b'.LaidOut (seen ++ more)
  kept : b.streams.Sublist b'.streams
  packets : ∀ packet ∈ packets, b'.Registered packet.streamIndex

lemma Bridge.Registered.mono {b b' : Bridge} {index : UInt32} (h : b.Registered index)
    (hkept : b.streams.Sublist b'.streams) : b'.Registered index := by
  obtain ⟨s, hs, hindex⟩ := h
  exact ⟨s, hkept.subset hs, hindex⟩

namespace Bridge

variable {seen : List (Bool × UInt8)} {b : Bridge}

/-- Nothing is sighted, and the streams stay. -/
lemma LaidOut.quiet (h : b.LaidOut seen) {b' : Bridge} (htracks : b'.tracks = b.tracks)
    (hstreams : b'.streams = b.streams) : Lays seen [] b b' [] where
  laidOut := by
    rw [List.append_nil]
    exact ⟨htracks ▸ h.tracks, hstreams ▸ h.sorted, hstreams ▸ h.registered⟩
  kept := hstreams ▸ List.Sublist.refl _
  packets := nofun

section Media

variable {T : Type} {k : MediaKind T}

/-- The packets of the tracks of a message. -/
lemma LaidOut.trackPackets (hk : ∀ tsMs tag index extra,
      (k.toPacketAt tsMs tag index extra).streamIndex = index)
    (tsMs extraNano : Int64) (tracks : List (UInt8 × T)) (h : b.LaidOut seen) :
    Lays seen (tracks.map fun track => (k.isAudio, track.1)) b
      (trackPackets k tsMs extraNano tracks b).2 (trackPackets k tsMs extraNano tracks b).1 := by
  induction tracks generalizing b seen with
  | nil => exact h.quiet rfl rfl
  | cons track tracks ih =>
      obtain ⟨hfirst, hkept, hregistered⟩ := h.track k.isAudio track.1 (k.codecParams track.2)
      obtain ⟨hlaid, hrest, hpackets⟩ := ih hfirst
      refine ⟨?_, hkept.trans hrest, fun packet hpacket => ?_⟩
      · rw [List.map_cons, List.append_cons]
        exact hlaid
      · rcases List.mem_cons.mp hpacket with rfl | hlater
        · have hfirst : (trackPacket k tsMs extraNano track.1 track.2 b).2.Registered
              (trackPacket k tsMs extraNano track.1 track.2 b).1.streamIndex := by
            rw [show (trackPacket k tsMs extraNano track.1 track.2 b).1.streamIndex
              = (b.tracks.index k.isAudio track.1).1 from hk _ _ _ _]
            exact hregistered
          exact hfirst.mono hrest
        · exact hpackets packet hlater

/-- The packets of a message; a message that cannot be taken apart changes nothing. -/
lemma LaidOut.mediaPackets (hk : ∀ tsMs tag index extra,
      (k.toPacketAt tsMs tag index extra).streamIndex = index)
    (tsMs : Int64) (tag : T) (h : b.LaidOut seen) :
    Lays seen (k.sighted tag) b ((mediaPackets k tsMs tag).run b).2
      (((mediaPackets k tsMs tag).run b).1.toOption.getD []) := by
  rw [Rtmp.mediaPackets, MediaKind.sighted]
  split_ifs
  · rcases k.demuxTracks tag with e | tracks
    · exact h.quiet rfl rfl
    · exact h.trackPackets hk tsMs _ tracks
  · exact h.trackPackets hk tsMs 0 [(0, tag)]

end Media

/-- The packets of an event. -/
lemma LaidOut.convert (h : b.LaidOut seen) (ev : MediaSourceEvent) :
    Lays seen ev.sighted b ((convert ev).run b).2 (((convert ev).run b).1.toOption.getD []) := by
  have hat : ∀ timestamp, (b.at timestamp).LaidOut seen := fun _ => ⟨h.tracks, h.sorted, h.registered⟩
  cases ev with
  | audio timestamp tag =>
      rw [run_convert_audio]
      obtain ⟨hlaid, hkept, hpackets⟩ :=
        (hat timestamp).mediaPackets (k := audioMedia) (fun _ _ _ _ => rfl)
        (b.ts.unwrapMs timestamp).1 tag
      exact ⟨hlaid, hkept, hpackets⟩
  | video timestamp tag =>
      rw [run_convert_video]
      obtain ⟨hlaid, hkept, hpackets⟩ :=
        (hat timestamp).mediaPackets (k := videoMedia) (fun _ _ _ _ => rfl)
        (b.ts.unwrapMs timestamp).1 tag
      exact ⟨hlaid, hkept, hpackets⟩
  | metadata value => exact h.quiet rfl rfl
  | skip => exact h.quiet rfl rfl
  | finish => exact h.quiet rfl rfl

/-- **Events**: the tracks and the streams are those that were sighted, and the packets are on streams
that are there. -/
theorem after_laidOut (evs : List MediaSourceEvent) :
    (after evs).LaidOut (evs.flatMap MediaSourceEvent.sighted) ∧
      ∀ packet ∈ produced evs, (after evs).Registered packet.streamIndex := by
  induction evs using List.reverseRecOn with
  | nil => exact ⟨.new, nofun⟩
  | append_singleton evs ev ih =>
      obtain ⟨hlaid, hregistered⟩ := ih
      obtain ⟨hnext, hkept, hpackets⟩ := hlaid.convert ev
      rw [after_snoc, produced_snoc, List.flatMap_append, List.flatMap_singleton]
      refine ⟨hnext, fun packet hpacket => ?_⟩
      rcases List.mem_append.mp hpacket with hold | hnew
      · exact (hregistered packet hold).mono hkept
      · exact hpackets packet hnew

/-- No stream is changed or removed by later events. -/
theorem streams_sublist (evs more : List MediaSourceEvent) :
    (after evs).streams.Sublist (after (evs ++ more)).streams := by
  induction more using List.reverseRecOn with
  | nil => rw [List.append_nil]
  | append_singleton more ev ih =>
      rw [← List.append_assoc, after_snoc]
      exact ih.trans ((after_laidOut (evs ++ more)).1.convert ev).kept

/-- Where the tracks of `seen` are: the default ones on 0 and 1, and each of the others on 2 and as many
as there were different ones before it was first seen; no two on one stream; and there is exactly one
stream for each track that was seen, in the order of their indices. -/
structure StreamsOf (seen : List (Bool × UInt8)) (b : Bridge) : Prop where
  audio : b.tracks.lookup true 0 = some audioStreamIndex
  video : b.tracks.lookup false 0 = some videoStreamIndex
  extra : ∀ (isAudio : Bool) (trackId : UInt8) (index : UInt32), trackId ≠ 0 →
    (b.tracks.lookup isAudio trackId = some index ↔
      ∃ before later, seen = before ++ (isAudio, trackId) :: later ∧ (isAudio, trackId) ∉ before ∧
        index.toNat = 2 + (order (extras before)).length)
  injective : ∀ (isAudio isAudio' : Bool) (trackId trackId' : UInt8) (index : UInt32),
    b.tracks.lookup isAudio trackId = some index → b.tracks.lookup isAudio' trackId' = some index →
      isAudio = isAudio' ∧ trackId = trackId'
  sorted : b.streams.Pairwise fun s t => s.index < t.index
  registered : ∀ index, b.Registered index ↔
    ∃ track ∈ seen, b.tracks.lookup track.1 track.2 = some index

/-- What `b` has, `b'` has as well. -/
structure Keeps (b b' : Bridge) : Prop where
  tracks : ∀ (isAudio : Bool) (trackId : UInt8) (index : UInt32),
    b.tracks.lookup isAudio trackId = some index → b'.tracks.lookup isAudio trackId = some index
  streams : b.streams.Sublist b'.streams

/-- An index is the one of the layout. -/
lemma LaidOut.lookup_eq_some (h : b.LaidOut seen) {isAudio : Bool} {trackId : UInt8} {index : UInt32} :
    b.tracks.lookup isAudio trackId = some index ↔
      layout seen (isAudio, trackId) = some index.toNat := by
  rw [← h.lookup, Option.map_eq_some_iff]
  constructor
  · intro hindex
    exact ⟨index, hindex, rfl⟩
  · rintro ⟨index', hindex, heq⟩
    rwa [UInt32.toNat_inj.mp heq] at hindex

lemma LaidOut.streamsOf (h : b.LaidOut seen) : b.StreamsOf seen where
  audio := rfl
  video := rfl
  extra _ _ _ hne := h.lookup_eq_some.trans (layout_eq_some_iff hne)
  injective _ _ _ _ _ hfirst hsecond :=
    Prod.mk.inj (layout_inj (h.lookup_eq_some.mp hfirst) (h.lookup_eq_some.mp hsecond))
  sorted := h.sorted
  registered index := by
    have hregistered := h.registered index.toNat
    simp only [UInt32.toNat_inj] at hregistered
    rw [Registered, hregistered]
    exact exists_congr fun track => and_congr_right fun _ => h.lookup_eq_some.symm

lemma after_keeps (evs more : List MediaSourceEvent) : Keeps (after evs) (after (evs ++ more)) where
  tracks _ _ _ hindex := by
    rw [(after_laidOut _).1.lookup_eq_some] at hindex ⊢
    rw [List.flatMap_append]
    exact layout_mono hindex _
  streams := streams_sublist evs more

end Bridge

/-! ### A source -/

namespace PacketSource

variable {S : Type} {src : MediaSource S}

/-- **The layout**: let a packet source, around a session or a player, probed or not, be called any
number of times.  Its tracks and its streams are those of the messages it heard; they only ever
grow; and every packet that was returned is on one of its streams.  The answers of the session are
kept by a source `b` that does the same as `a`. -/
theorem layout_stable {s : S} {a : PacketSource S} (h : Opened src s a) :
    (∃ b : PacketSource (S × AnswerLog), Opened src.logged (s, []) b ∧ b.forget = a) ∧
    ∀ b : PacketSource (S × AnswerLog), Opened src.logged (s, []) b → b.forget = a → ∀ n,
      calls src n a = ((calls src.logged n b).1, (calls src.logged n b).2.forget) ∧
      (calls src n a).2.StreamsOf
        ((calls src.logged n b).2.heard.flatMap MediaSourceEvent.sighted) ∧
      (∀ m, n ≤ m → (calls src n a).2.Keeps (calls src m a).2.toBridge) ∧
      ∀ packet, .ok packet ∈ (calls src n a).1 →
        (calls src n a).2.Registered packet.streamIndex := by
  refine ⟨h.logged, ?_⟩
  rintro b hb rfl n
  have hbridge : ∀ n, (calls src n b.forget).2.toBridge = .after (calls src.logged n b).2.heard := by
    intro n
    rw [calls_logged]
    exact (hb.calls_fed n).bridge
  refine ⟨calls_logged _ n b, ?_, fun m hnm => ?_, fun packet hpacket => ?_⟩
  · rw [hbridge]
    exact (Bridge.after_laidOut _).1.streamsOf
  · obtain ⟨more, hmore⟩ := @heard_mono _ src _ _ hb.fed _ _ hnm
    rw [hbridge, hbridge, ← hmore]
    exact Bridge.after_keeps _ more
  · rw [calls_logged] at hpacket
    have hsent : packet ∈ packetsOf (calls src.logged n b).1 := List.mem_filterMap.mpr ⟨_, hpacket, rfl⟩
    rw [hbridge]
    refine (Bridge.after_laidOut _).2 packet ?_
    rw [← (hb.calls_fed n).packets]
    exact List.mem_append_left _ hsent

/-- A session with an AAC message, a track of a multitrack message and an AAC message again. -/
theorem layout_stable_mixed :
    let opened : RtmpSession := .opened (.new []) .new ⟨"live", "key", "live", 1, []⟩
    let s := opened.withQueue [⟨msgAudio, 1, 40, [0xAF, 1, 7]⟩,
      ⟨msgVideo, 1, 40, [0x96, 0x03, 0x68, 0x76, 0x63, 0x31, 5, 0xAA]⟩, ⟨msgAudio, 1, 60, [0xAF, 1, 8]⟩]
    let logged := calls RtmpSession.media.logged 3 (fromSession (s, []))
    (calls RtmpSession.media 3 (fromSession s)).2.StreamsOf
        (logged.2.heard.flatMap MediaSourceEvent.sighted) ∧
      (calls RtmpSession.media 1 (fromSession s)).2.Keeps
        (calls RtmpSession.media 3 (fromSession s)).2.toBridge ∧
      ∀ packet, .ok packet ∈ (calls RtmpSession.media 3 (fromSession s)).1 →
        (calls RtmpSession.media 3 (fromSession s)).2.Registered packet.streamIndex := by
  intro opened s logged
  have hopened : Opened RtmpSession.media s (fromSession s) := .inl rfl
  obtain ⟨-, hsources⟩ := layout_stable hopened
  obtain ⟨-, -, hkeeps, -⟩ := hsources (fromSession (s, [])) (.inl rfl) rfl 1
  obtain ⟨-, hstreams, -, hpackets⟩ := hsources (fromSession (s, [])) (.inl rfl) rfl 3
  exact ⟨hstreams, hkeeps 3 (by decide), hpackets⟩

end PacketSource

end Rtmp
