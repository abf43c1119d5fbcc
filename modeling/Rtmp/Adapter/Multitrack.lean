import Rtmp.Adapter.Source

/-!
The packets of a multitrack message are those of its tracks.

* `TrackStreams.lookup_index`, `TrackStreams.lookup_mono`: a track has a stream from when it is first
  seen, and keeps it;
* `trackPackets_spec`: the packets of several tracks, each on the stream of its track;
* `Bridge.DeliversAlone`: a packet is the one an event has by itself, on another stream;
* `multitrack_delivery` (**multitrack**): tags sent in one multitrack tag become the packets that they
  become when each is sent by itself with the modifiers of the message.
-/

namespace Rtmp

open Flv

/-! ### The streams of tracks -/

namespace TrackStreams

variable {tracks : TrackStreams} {isAudio isAudio' : Bool} {trackId trackId' : UInt8} {index : UInt32}

/-- A track that has a stream keeps it, whichever stream is registered. -/
lemma lookup_mono (h : tracks.lookup isAudio trackId = some index) :
    (tracks.index isAudio' trackId').2.lookup isAudio trackId = some index := by
  rw [TrackStreams.index]
  cases hlookup : tracks.lookup isAudio' trackId' with
  | some idx => exact h
  | none =>
      by_cases hdefault : trackId = 0
      · rw [lookup, if_pos hdefault] at h ⊢
        exact h
      · rw [lookup, if_neg hdefault] at h ⊢
        obtain ⟨t, hfind, rfl⟩ := Option.map_eq_some_iff.mp h
        dsimp only
        rw [List.find?_append, hfind]
        rfl

/-- A track that was asked for has a stream. -/
lemma lookup_index : (tracks.index isAudio trackId).2.lookup isAudio trackId
    = some (tracks.index isAudio trackId).1 := by
  rw [TrackStreams.index]
  cases hlookup : tracks.lookup isAudio trackId with
  | some idx => exact hlookup
  | none =>
      by_cases hdefault : trackId = 0
      · rw [lookup, if_pos hdefault] at hlookup
        cases hlookup
      · rw [lookup, if_neg hdefault] at hlookup ⊢
        have hfind := Option.map_eq_none_iff.mp hlookup
        dsimp only
        rw [List.find?_append, hfind]
        simp

end TrackStreams

section Tracks

variable {T : Type} (k : MediaKind T) (tsMs extraNano : Int64)

/-- The packets of several tracks, in order, and where they go. -/
lemma trackPackets_spec {P : UInt8 × T → Prop} (tracks : List (UInt8 × T))
    (hP : ∀ track ∈ tracks, P track) (b : Bridge) :
    (∀ isAudio trackId index, b.tracks.lookup isAudio trackId = some index →
      (trackPackets k tsMs extraNano tracks b).2.tracks.lookup isAudio trackId = some index) ∧
    List.Forall₂ (fun track packet => P track ∧ ∃ index,
      (trackPackets k tsMs extraNano tracks b).2.tracks.lookup k.isAudio track.1 = some index ∧
        packet = k.toPacketAt tsMs track.2 index extraNano) tracks
      (trackPackets k tsMs extraNano tracks b).1 := by
  induction tracks generalizing b with
  | nil => exact ⟨fun _ _ _ h => h, .nil⟩
  | cons track tracks ih =>
      obtain ⟨hfirst, hrest⟩ := List.forall_mem_cons.mp hP
      obtain ⟨hmono, hall⟩ := ih hrest (trackPacket k tsMs extraNano track.1 track.2 b).2
      refine ⟨fun isAudio id index h => hmono isAudio id index (TrackStreams.lookup_mono h),
        .cons ⟨hfirst, ?_⟩ hall⟩
      exact ⟨_, hmono _ _ _ TrackStreams.lookup_index, rfl⟩

end Tracks

/-- Sent by itself, whatever came before it at that time, `ev` has one packet, and `packet` is that one
on the stream of the track. -/
def Bridge.DeliversAlone (b b' : Bridge) (timestamp : UInt32) (ev : MediaSourceEvent) (isAudio : Bool)
    (trackId : UInt8) (packet : Packet) : Prop :=
  ∃ p index, (∀ b₀ : Bridge, (b₀.ts.unwrapMs timestamp).1 = (b.ts.unwrapMs timestamp).1 →
      ((Bridge.convert ev).run b₀).1 = .ok [p]) ∧
    b'.tracks.lookup isAudio trackId = some index ∧ packet = { p with streamIndex := index }

/-! ### One tag with the modifiers of the message -/

section Video

variable {tag : VideoTag} {inner : UInt8} {modEx : List ModEx}

/-- A plain tag stays well formed with modifiers. -/
lemma wellFormed_withModEx (hwell : tag.WellFormed) (hmulti : tag.multitrack.isSome = false)
    (hinner : tag.exPacketType = some inner) (hmod : ∀ e ∈ modEx, e.WellFormed) :
    { tag with modEx := modEx }.WellFormed := by
  cases hwell with
  | legacy => cases hinner
  | avc => cases hinner
  | enhanced hframe hheader hcts => exact .enhanced hframe { hheader with modEx := hmod } hcts
  | multitrack => cases hmulti

/-- The modifiers count the same on the tag and on the message around it. -/
lemma videoToPacketAt_modEx (hmod : (!tag.modEx.isEmpty) = false) (tsMs : Int64)
    (index : UInt32) : videoToPacketAt tsMs tag index (offsetNano modEx).toUInt64.toInt64
      = { videoToPacketAt tsMs { tag with modEx := modEx } videoStreamIndex 0 with
          streamIndex := index } := by
  have hnone : tag.timestampOffsetNano = 0 := by
    have hnil : tag.modEx = [] := by simpa using hmod
    rw [VideoTag.timestampOffsetNano, hnil]
    rfl
  have hsum : tag.timestampOffsetNano.toUInt64.toInt64 + (offsetNano modEx).toUInt64.toInt64
      = (offsetNano modEx).toUInt64.toInt64 + 0 := by
    rw [hnone, Int64.add_zero]
    exact Int64.zero_add _
  simp only [videoToPacketAt, hsum]
  rfl

end Video

section Audio

variable {tag : AudioTag} {inner : UInt8} {modEx : List ModEx}

lemma wellFormed_withModExAudio (hwell : tag.WellFormed) (hmulti : tag.multitrack.isSome = false)
    (hinner : tag.exPacketType = some inner) (hmod : ∀ e ∈ modEx, e.WellFormed) :
    { tag with modEx := modEx }.WellFormed := by
  cases hwell with
  | legacy => cases hinner
  | aac => cases hinner
  | enhanced hheader => exact .enhanced { hheader with modEx := hmod }
  | multitrack => cases hmulti

lemma audioToPacketAt_modEx (hmod : (!tag.modEx.isEmpty) = false) (tsMs : Int64)
    (index : UInt32) : audioToPacketAt tsMs tag index (offsetNano modEx).toUInt64.toInt64
      = { audioToPacketAt tsMs { tag with modEx := modEx } audioStreamIndex 0 with
          streamIndex := index } := by
  have hnone : tag.timestampOffsetNano = 0 := by
    have hnil : tag.modEx = [] := by simpa using hmod
    rw [AudioTag.timestampOffsetNano, hnil]
    rfl
  have hsum : tag.timestampOffsetNano.toUInt64.toInt64 + (offsetNano modEx).toUInt64.toInt64
      = (offsetNano modEx).toUInt64.toInt64 + 0 := by
    rw [hnone, Int64.add_zero]
    exact Int64.zero_add _
  simp only [audioToPacketAt, hsum]
  rfl

end Audio

/-! ### Delivery -/

section Delivery

variable {T : Type} (k : MediaKind T) (tsMs : Int64) (b : Bridge)

/-- A tag of one track has one packet, on the default stream. -/
lemma run_mediaPackets_single {tag : T} (h : k.isMultitrack tag = false) :
    ((mediaPackets k tsMs tag).run b).1
      = .ok [k.toPacketAt tsMs tag (if k.isAudio then audioStreamIndex else videoStreamIndex) 0] := by
  rw [mediaPackets, if_neg (by rw [h]; exact Bool.false_ne_true)]
  rfl

/-- A multitrack tag has the packets of its tracks. -/
lemma run_mediaPackets_multitrack (tag : T) {tracks : List (UInt8 × T)}
    (h : k.isMultitrack tag = true) (hdemux : k.demuxTracks tag = .ok tracks) :
    (mediaPackets k tsMs tag).run b
      = (.ok (trackPackets k tsMs (k.timestampOffsetNano tag).toUInt64.toInt64 tracks b).1,
          (trackPackets k tsMs (k.timestampOffsetNano tag).toUInt64.toInt64 tracks b).2) := by
  rw [mediaPackets, if_pos h, hdemux]
  rfl

end Delivery

/-- **Multitrack**: the packets of a multitrack message, of either kind, in any mode and with any
modifiers, are track by track the packets that the tags have when each of them is sent by itself with
the same modifiers at the same time; only the stream is that of the track. -/
theorem multitrack_delivery (ty : UInt8) (hty : ty.toNat < 16) (modEx : List ModEx)
    (hmod : ∀ e ∈ modEx, e.WellFormed) (timestamp : UInt32) (b : Bridge) :
    (∀ (tracks : List (UInt8 × VideoTag)) (outer : VideoTag),
      (∀ track ∈ tracks, track.2.WellFormed) →
      VideoTag.multitrackFromTags ty tracks = .ok outer →
      (ty ≠ avMultitrackTypeOneTrack →
        ∀ track ∈ tracks, ((buildVideo track.2).drop 5).length < 2 ^ 24) →
      ∃ tag packets b', parseVideo (buildVideo { outer with modEx := modEx }) = .ok tag ∧
        (Bridge.convert (.video timestamp tag)).run b = (.ok packets, b') ∧
        List.Forall₂ (fun track packet => ∃ alone,
          parseVideo (buildVideo { track.2 with modEx := modEx }) = .ok alone ∧
          b.DeliversAlone b' timestamp (.video timestamp alone) false track.1 packet)
          tracks packets) ∧
    ∀ (tracks : List (UInt8 × AudioTag)) (outer : AudioTag),
      (∀ track ∈ tracks, track.2.WellFormed) →
      AudioTag.multitrackFromTags ty tracks = .ok outer →
      (ty ≠ avMultitrackTypeOneTrack →
        ∀ track ∈ tracks, ((buildAudio track.2).drop 5).length < 2 ^ 24) →
      ∃ tag packets b', parseAudio (buildAudio { outer with modEx := modEx }) = .ok tag ∧
        (Bridge.convert (.audio timestamp tag)).run b = (.ok packets, b') ∧
        List.Forall₂ (fun track packet => ∃ alone,
          parseAudio (buildAudio { track.2 with modEx := modEx }) = .ok alone ∧
          b.DeliversAlone b' timestamp (.audio timestamp alone) true track.1 packet)
          tracks packets := by
  constructor
  · intro tracks outer hwell hmux hsize
    obtain ⟨hparse, hmulti, hdemux⟩ := VideoTag.demuxTracks_multitrack hty hwell hsize hmux hmod
    have hrun := run_mediaPackets_multitrack videoMedia (b.ts.unwrapMs timestamp).1 (b.at timestamp)
      { outer with modEx := modEx } hmulti hdemux
    obtain ⟨-, hpackets⟩ := trackPackets_spec videoMedia (b.ts.unwrapMs timestamp).1
      (offsetNano modEx).toUInt64.toInt64 tracks
      (fun track htrack => And.intro (hwell track htrack)
        (VideoTag.plain_of_multitrackFromTags hmux track htrack)) (b.at timestamp)
    refine ⟨_, _, _, hparse, (b.run_convert_video timestamp _).trans hrun, hpackets.imp ?_⟩
    -- alone in its tag, the track is read under the same chain and the same time
    rintro track packet ⟨⟨hwell, hmulti, hplain, inner, hinner⟩, index, hindex, rfl⟩
    refine ⟨_, parseVideo_buildVideo_of_wellFormed (wellFormed_withModEx hwell hmulti hinner hmod),
      _, index, fun b₀ htime => ?_, hindex, videoToPacketAt_modEx hplain _ index⟩
    rw [Bridge.run_convert_video, htime]
    exact run_mediaPackets_single videoMedia _ _ hmulti
  · intro tracks outer hwell hmux hsize
    obtain ⟨hparse, hmulti, hdemux⟩ := AudioTag.demuxTracks_multitrack hty hwell hsize hmux hmod
    have hrun := run_mediaPackets_multitrack audioMedia (b.ts.unwrapMs timestamp).1 (b.at timestamp)
      { outer with modEx := modEx } hmulti hdemux
    obtain ⟨-, hpackets⟩ := trackPackets_spec audioMedia (b.ts.unwrapMs timestamp).1
      (offsetNano modEx).toUInt64.toInt64 tracks
      (fun track htrack => And.intro (hwell track htrack)
        (AudioTag.plain_of_multitrackFromTags hmux track htrack)) (b.at timestamp)
    refine ⟨_, _, _, hparse, (b.run_convert_audio timestamp _).trans hrun, hpackets.imp ?_⟩
    rintro track packet ⟨⟨hwell, hmulti, hplain, inner, hinner⟩, index, hindex, rfl⟩
    refine ⟨_, parseAudio_buildAudio_of_wellFormed (wellFormed_withModExAudio hwell hmulti hinner hmod),
      _, index, fun b₀ htime => ?_, hindex, audioToPacketAt_modEx hplain _ index⟩
    rw [Bridge.run_convert_audio, htime]
    exact run_mediaPackets_single audioMedia _ _ hmulti

/-- Two video tracks with codecs of their own, one of them with a composition time, and an audio
track. -/
theorem multitrack_delivery_two :
    let a : VideoTag := ⟨1, 0, none, -2, [0xAA], some 1, some fourccHevc, [], none⟩
    let b : VideoTag := ⟨1, 0, none, 40, [0xBB, 0xCC], some 1, some fourccAvc, [], none⟩
    let c : AudioTag := ⟨9, 0, false, false, none, some 1, some ⟨0x6D, 0x70, 0x34, 0x61⟩, [1], [], none⟩
    let modEx : List ModEx := [⟨0, [0, 0, 5]⟩]
    ∃ v w, VideoTag.multitrackFromTags 2 [(0, a), (1, b)] = .ok v ∧
      AudioTag.multitrackFromTags 2 [(7, c)] = .ok w ∧
      (∃ tag packets b', parseVideo (buildVideo { v with modEx := modEx }) = .ok tag ∧
        (Bridge.convert (.video 1000 tag)).run .new = (.ok packets, b') ∧
        List.Forall₂ (fun track packet => ∃ alone,
          parseVideo (buildVideo { track.2 with modEx := modEx }) = .ok alone ∧
          Bridge.new.DeliversAlone b' 1000 (.video 1000 alone) false track.1 packet)
          [(0, a), (1, b)] packets) ∧
      ∃ tag packets b', parseAudio (buildAudio { w with modEx := modEx }) = .ok tag ∧
        (Bridge.convert (.audio 1000 tag)).run .new = (.ok packets, b') ∧
        List.Forall₂ (fun track packet => ∃ alone,
          parseAudio (buildAudio { track.2 with modEx := modEx }) = .ok alone ∧
          Bridge.new.DeliversAlone b' 1000 (.audio 1000 alone) true track.1 packet)
          [(7, c)] packets := by
  intro a b c modEx
  have hmod : ∀ e ∈ modEx, e.WellFormed := by
    intro e he
    rw [List.mem_singleton.mp he]
    exact ⟨by decide, by decide, by decide⟩
  obtain ⟨hvideo, haudio⟩ := multitrack_delivery 2 (by decide) modEx hmod 1000 .new
  have ha : a.WellFormed := parseVideo_buildVideo_iff.mp (by decide +kernel)
  have hb : b.WellFormed := parseVideo_buildVideo_iff.mp (by decide +kernel)
  have hback : parseAudio (buildAudio c) = .ok c := by decide +kernel
  have hc : c.WellFormed := (parseAudio_eq_ok hback).1
  refine ⟨_, _, rfl, rfl, hvideo [(0, a), (1, b)] _ ?_ rfl ?_, haudio [(7, c)] _ ?_ rfl ?_⟩
  · exact List.forall_mem_cons.mpr ⟨ha, List.forall_mem_singleton.mpr hb⟩
  · intro _
    exact List.forall_mem_cons.mpr ⟨by decide +kernel,
      List.forall_mem_singleton.mpr (by decide +kernel)⟩
  · exact List.forall_mem_singleton.mpr hc
  · intro _
    exact List.forall_mem_singleton.mpr (by decide +kernel)

end Rtmp
