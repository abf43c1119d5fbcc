import Rtmp.Flv.Tracks

/-!
What `demux_tracks` takes out of a tag that came from the wire: the tracks need not be those of any
`multitrack_from_tags`.

A track is read as a tag of its own from a first byte made of the message's frame type and packet type,
the FourCC and the body.  That is the plain tag of the track, unless the packet type announces a ModEx
prelude: `multitrack_from_tags` refuses it for a multitrack message, but the parsers do not, and
then the FourCC and the body of the track are read as modifiers.

* `demux_eq_ok`: the tags of a row are those of its tracks, one by one;
* `parseVideo_track`, `parseAudio_track`: the tag of a track under a packet type that is no prelude;
* `VideoTag.Track`, `AudioTag.Track`: a tag is the plain one of a track;
* `demuxTracks_track_iff` (**demultiplexing**): all tags of a message are the plain ones of its
  tracks if and only if the packet type of the message is not ModEx.
-/

namespace Rtmp.Flv

/-! ### Rows -/

/-- A row is demultiplexed track by track. -/
lemma demux_eq_ok {T : Type} {what : String} {head : UInt8} {shared : Option FourCc}
    {parse : List UInt8 → Except Error T} {tracks : List MultitrackTrack} {tags : List (UInt8 × T)}
    (h : demux what head shared parse tracks = .ok tags) :
    List.Forall₂ (fun track tag => tag.1 = track.trackId ∧ ∃ fcc, track.fourcc.or shared = some fcc ∧
      parse (head :: (fcc.bytes ++ track.body)) = .ok tag.2) tracks tags := by
  induction tracks generalizing tags with
  | nil =>
      cases h
      exact .nil
  | cons track tracks ih =>
      rw [demux] at h
      -- the own code of a track goes before the shared one
      cases hor : track.fourcc.or shared with
      | none =>
          simp only [hor] at h
          cases h
      | some fcc =>
          simp only [hor] at h
          obtain ⟨_, hfcc, h⟩ := Eff.except_bind_eq_ok.mp h
          cases hfcc
          obtain ⟨tag, htag, h⟩ := Eff.except_bind_eq_ok.mp h
          obtain ⟨tags, htags, h⟩ := Eff.except_bind_eq_ok.mp h
          cases h
          refine .cons ⟨rfl, fcc, hor, ?_⟩ (ih htags)
          cases hparse : parse (head :: (fcc.bytes ++ track.body)) with
          | error e =>
              rw [hparse] at htag
              cases htag
          | ok t =>
              rw [hparse] at htag
              cases htag
              rfl

/-- The header of a track: no prelude, the packet type of the message and the FourCC. -/
def trackHeader (packetType : UInt8) (fcc : FourCc) : ExHeader := ⟨[], none, packetType, some fcc⟩

lemma trackHeader_wellFormed {modExValue multitrackValue packetType : UInt8} {fcc : FourCc}
    (hlt : packetType.toNat < 16) (hmulti : packetType ≠ multitrackValue)
    (hmod : packetType ≠ modExValue) :
    (trackHeader packetType fcc).WellFormed modExValue multitrackValue where
  modEx _ he := absurd he List.not_mem_nil
  type_lt := nofun
  packetType_lt := hlt
  not_multitrack := hmulti
  not_modEx _ := hmod
  fourcc := iff_of_false nofun nofun

/-! ### Video -/

/-- A tag is the plain one of a track of `outer`: no tracks and no modifiers of its own, the packet type
and the frame type of the message, the FourCC of the track or else the shared one, and the body of the
track once the composition time that its codec and packet type ask for is put back. -/
structure VideoTag.Track (outer : VideoTag) (track : MultitrackTrack) (tag : VideoTag) : Prop where
  multitrack : tag.multitrack = none
  modEx : tag.modEx = []
  exPacketType : tag.exPacketType = outer.exPacketType
  frameType : tag.frameType = outer.frameType
  fourcc : ∃ fcc, track.fourcc.or outer.fourcc = some fcc ∧ tag.fourcc = some fcc
  body : ∃ packetType fcc, tag.exPacketType = some packetType ∧ tag.fourcc = some fcc ∧
    (if needsCts tag.frameType packetType fcc then si24Bytes tag.compositionTime else []) ++ tag.body
      = track.body

/-- Under a packet type that is no prelude, a track is read as its plain tag. -/
lemma parseVideo_track {outer : VideoTag} {track : MultitrackTrack} {packetType : UInt8} {fcc : FourCc}
    {tag : VideoTag} (hframe : outer.frameType.toNat < 8) (hlt : packetType.toNat < 16)
    (hmulti : packetType ≠ exPacketTypeMultitrack) (hmod : packetType ≠ exPacketTypeModEx)
    (hpacket : outer.exPacketType = some packetType) (hfcc : track.fourcc.or outer.fourcc = some fcc)
    (h : parseVideo (exVideoHead outer.frameType packetType :: (fcc.bytes ++ track.body)) = .ok tag) :
    outer.Track track tag := by
  obtain ⟨s, hs⟩ : ∃ s, readVideo.run (exVideoHead outer.frameType packetType
      :: (fcc.bytes ++ track.body)) = (.ok tag, s) := ⟨_, Prod.ext h rfl⟩
  obtain ⟨hflag, hf, hpt⟩ := exVideoHead_fields hframe hlt
  have hheader : (parseExHeader "video" exPacketTypeModEx exPacketTypeMultitrack packetType).run
      (fcc.bytes ++ track.body) = (.ok (trackHeader packetType fcc), track.body) :=
    parse_buildExHeader (trackHeader_wellFormed hlt hmulti hmod) (by decide) (by decide) (by decide)
  rw [readVideo, Eff.run_bind_ok Scan.byte_cons, if_pos hflag, parseExVideo] at hs
  simp only [hf, hpt] at hs
  rw [Eff.run_bind_ok hheader] at hs
  obtain ⟨cts, rest, hcts, hs⟩ := Eff.run_bind_eq_ok.mp hs
  obtain ⟨body, u, hbody, hs⟩ := Eff.run_bind_eq_ok.mp hs
  cases hbody
  cases hs
  exact ⟨rfl, rfl, hpacket.symm, rfl, ⟨fcc, hfcc, rfl⟩,
    ⟨packetType, fcc, rfl, rfl, (parseCts_eq_ok hcts).2.symm⟩⟩

/-- A tag that the parser gave, and that is no multitrack tag, is not under a ModEx packet type. -/
lemma VideoTag.WellFormed.exPacketType_ne {tag : VideoTag} (h : tag.WellFormed)
    (hmulti : tag.multitrack = none) : tag.exPacketType ≠ some exPacketTypeModEx := by
  cases h with
  | legacy => nofun
  | avc => nofun
  | enhanced _ hheader _ => exact fun hmod => hheader.not_modEx rfl (Option.some.inj hmod)
  | multitrack => cases hmulti

/-- What the parser says of a multitrack tag. -/
lemma VideoTag.WellFormed.tracks {outer : VideoTag} {mt : Multitrack} (h : outer.WellFormed)
    (hmt : outer.multitrack = some mt) : ∃ packetType, outer.exPacketType = some packetType ∧
      outer.frameType.toNat < 8 ∧ packetType.toNat < 16 ∧ packetType ≠ exPacketTypeMultitrack ∧
      mt.tracks ≠ [] := by
  cases h with
  | legacy => cases hmt
  | avc => cases hmt
  | enhanced => cases hmt
  | multitrack hframe hheader htracks =>
      cases hmt
      exact ⟨_, rfl, hframe, hheader.packetType_lt, hheader.not_multitrack, htracks.nonempty⟩

/-- The tags of a video message are the plain ones of its tracks exactly if its packet type is not
ModEx. -/
lemma VideoTag.demuxTracks_iff {payload : List UInt8} {outer : VideoTag} {mt : Multitrack}
    {tags : List (UInt8 × VideoTag)} (hparse : parseVideo payload = .ok outer)
    (hmt : outer.multitrack = some mt) (hdemux : outer.demuxTracks = .ok tags) :
    List.Forall₂ (fun track tag => tag.1 = track.trackId ∧ outer.Track track tag.2) mt.tracks tags
      ↔ outer.exPacketType ≠ some exPacketTypeModEx := by
  obtain ⟨packetType, hpacket, hframe, hlt, hmulti, hne⟩ := (parseVideo_eq_ok hparse).1.tracks hmt
  rw [VideoTag.demuxTracks, hmt, hpacket] at hdemux
  have hrow := demux_eq_ok hdemux
  rw [hpacket]
  constructor
  · intro htracks hmod
    obtain ⟨first, rest, hcons⟩ := List.exists_cons_of_ne_nil hne
    rw [hcons] at hrow htracks
    obtain ⟨-, hrow⟩ | ⟨⟨-, fcc, -, hread⟩, -⟩ := hrow
    obtain ⟨-, -⟩ | ⟨⟨-, htrack⟩, -⟩ := htracks
    refine (parseVideo_eq_ok hread).1.exPacketType_ne htrack.multitrack ?_
    rw [htrack.exPacketType, hpacket, hmod]
  · intro hmod
    refine hrow.imp fun track tag => ?_
    rintro ⟨hid, fcc, hfcc, hread⟩
    exact ⟨hid, parseVideo_track hframe hlt hmulti (fun heq => hmod (congrArg some heq)) hpacket hfcc
      hread⟩

/-! ### Audio -/

/-- The same for audio, whose tracks have no composition times. -/
structure AudioTag.Track (outer : AudioTag) (track : MultitrackTrack) (tag : AudioTag) : Prop where
  multitrack : tag.multitrack = none
  modEx : tag.modEx = []
  exPacketType : tag.exPacketType = outer.exPacketType
  fourcc : ∃ fcc, track.fourcc.or outer.audioFourcc = some fcc ∧ tag.audioFourcc = some fcc
  body : tag.body = track.body

lemma parseAudio_track {outer : AudioTag} {track : MultitrackTrack} {packetType : UInt8} {fcc : FourCc}
    {tag : AudioTag} (hlt : packetType.toNat < 16) (hmulti : packetType ≠ audioPacketTypeMultitrack)
    (hmod : packetType ≠ audioPacketTypeModEx) (hpacket : outer.exPacketType = some packetType)
    (hfcc : track.fourcc.or outer.audioFourcc = some fcc)
    (h : parseAudio (exAudioHead packetType :: (fcc.bytes ++ track.body)) = .ok tag) :
    outer.Track track tag := by
  obtain ⟨s, hs⟩ : ∃ s, readAudio.run (exAudioHead packetType :: (fcc.bytes ++ track.body))
      = (.ok tag, s) := ⟨_, Prod.ext h rfl⟩
  obtain ⟨hf, hpt⟩ := exAudioHead_fields hlt
  have hheader : (parseExHeader "audio" audioPacketTypeModEx audioPacketTypeMultitrack packetType).run
      (fcc.bytes ++ track.body) = (.ok (trackHeader packetType fcc), track.body) :=
    parse_buildExHeader (trackHeader_wellFormed hlt hmulti hmod) (by decide) (by decide) (by decide)
  rw [readAudio, Eff.run_bind_ok Scan.byte_cons, if_pos hf, parseExAudio] at hs
  simp only [hpt] at hs
  rw [Eff.run_bind_ok hheader] at hs
  obtain ⟨body, u, hbody, hs⟩ := Eff.run_bind_eq_ok.mp hs
  cases hbody
  cases hs
  exact ⟨rfl, rfl, hpacket.symm, ⟨fcc, hfcc, rfl⟩, rfl⟩

lemma AudioTag.WellFormed.exPacketType_ne {tag : AudioTag} (h : tag.WellFormed)
    (hmulti : tag.multitrack = none) : tag.exPacketType ≠ some audioPacketTypeModEx := by
  cases h with
  | legacy => nofun
  | aac => nofun
  | enhanced hheader => exact fun hmod => hheader.not_modEx rfl (Option.some.inj hmod)
  | multitrack => cases hmulti

lemma AudioTag.WellFormed.tracks {outer : AudioTag} {mt : Multitrack} (h : outer.WellFormed)
    (hmt : outer.multitrack = some mt) : ∃ packetType, outer.exPacketType = some packetType ∧
      packetType.toNat < 16 ∧ packetType ≠ audioPacketTypeMultitrack ∧ mt.tracks ≠ [] := by
  cases h with
  | legacy => cases hmt
  | aac => cases hmt
  | enhanced => cases hmt
  | multitrack hheader htracks =>
      cases hmt
      exact ⟨_, rfl, hheader.packetType_lt, hheader.not_multitrack, htracks.nonempty⟩

lemma AudioTag.demuxTracks_iff {payload : List UInt8} {outer : AudioTag} {mt : Multitrack}
    {tags : List (UInt8 × AudioTag)} (hparse : parseAudio payload = .ok outer)
    (hmt : outer.multitrack = some mt) (hdemux : outer.demuxTracks = .ok tags) :
    List.Forall₂ (fun track tag => tag.1 = track.trackId ∧ outer.Track track tag.2) mt.tracks tags
      ↔ outer.exPacketType ≠ some audioPacketTypeModEx := by
  obtain ⟨packetType, hpacket, hlt, hmulti, hne⟩ := (parseAudio_eq_ok hparse).1.tracks hmt
  rw [AudioTag.demuxTracks, hmt, hpacket] at hdemux
  have hrow := demux_eq_ok hdemux
  rw [hpacket]
  constructor
  · intro htracks hmod
    obtain ⟨first, rest, hcons⟩ := List.exists_cons_of_ne_nil hne
    rw [hcons] at hrow htracks
    obtain ⟨-, hrow⟩ | ⟨⟨-, fcc, -, hread⟩, -⟩ := hrow
    obtain ⟨-, -⟩ | ⟨⟨-, htrack⟩, -⟩ := htracks
    refine (parseAudio_eq_ok hread).1.exPacketType_ne htrack.multitrack ?_
    rw [htrack.exPacketType, hpacket, hmod]
  · intro hmod
    refine hrow.imp fun track tag => ?_
    rintro ⟨hid, fcc, hfcc, hread⟩
    exact ⟨hid, parseAudio_track hlt hmulti (fun heq => hmod (congrArg some heq)) hpacket hfcc hread⟩

/-! ### Both -/

/-- **Demultiplexing**: the tags that `demux_tracks` takes out of a multitrack message, of either kind,
are the plain tags of its tracks, one by one and in order, if and only if the packet type of the message
is not ModEx. -/
theorem demuxTracks_track_iff (payload : List UInt8) :
    (∀ outer mt tags, parseVideo payload = .ok outer → outer.multitrack = some mt →
      outer.demuxTracks = .ok tags →
      (List.Forall₂ (fun track tag => tag.1 = track.trackId ∧ outer.Track track tag.2) mt.tracks tags
        ↔ outer.exPacketType ≠ some exPacketTypeModEx)) ∧
    ∀ outer mt tags, parseAudio payload = .ok outer → outer.multitrack = some mt →
      outer.demuxTracks = .ok tags →
      (List.Forall₂ (fun track tag => tag.1 = track.trackId ∧ outer.Track track tag.2) mt.tracks tags
        ↔ outer.exPacketType ≠ some audioPacketTypeModEx) :=
  ⟨fun _ _ _ => VideoTag.demuxTracks_iff, fun _ _ _ => AudioTag.demuxTracks_iff⟩

/-- Two coded frames of a codec with composition times, and one audio track. -/
theorem demuxTracks_track_iff_two :
    let video : List UInt8 := [0x96, 0x11, 0x68, 0x76, 0x63, 0x31, 3, 0, 0, 4, 0xFF, 0xFF, 0xFE, 0xAA,
      4, 0, 0, 3, 0, 0, 40]
    let audio : List UInt8 := [0x95, 0x01, 0x6D, 0x70, 0x34, 0x61, 7, 1, 2]
    (∃ outer mt tags, parseVideo video = .ok outer ∧ outer.multitrack = some mt ∧
      outer.demuxTracks = .ok tags ∧ tags.length = 2 ∧ outer.exPacketType ≠ some exPacketTypeModEx ∧
      List.Forall₂ (fun track tag => tag.1 = track.trackId ∧ outer.Track track tag.2) mt.tracks tags) ∧
    ∃ outer mt tags, parseAudio audio = .ok outer ∧ outer.multitrack = some mt ∧
      outer.demuxTracks = .ok tags ∧ tags.length = 1 ∧ outer.exPacketType ≠ some audioPacketTypeModEx ∧
      List.Forall₂ (fun track tag => tag.1 = track.trackId ∧ outer.Track track tag.2) mt.tracks
      tags := by
  intro video audio
  have hvideo : parseVideo video = .ok ⟨1, 0, none, 0, [], some 1, some fourccHevc, [],
      some ⟨1, [⟨none, 3, [0xFF, 0xFF, 0xFE, 0xAA]⟩, ⟨none, 4, [0, 0, 40]⟩]⟩⟩ := by decide +kernel
  have haudio : parseAudio audio = .ok ⟨9, 0, false, false, none, some 1,
      some ⟨0x6D, 0x70, 0x34, 0x61⟩, [], [], some ⟨0, [⟨none, 7, [1, 2]⟩]⟩⟩ := by decide +kernel
  have hinVideo := (demuxTracks_track_iff video).1
  have hinAudio := (demuxTracks_track_iff audio).2
  refine ⟨⟨_, _, [(3, ⟨1, 0, none, -2, [0xAA], some 1, some fourccHevc, [], none⟩),
      (4, ⟨1, 0, none, 40, [], some 1, some fourccHevc, [], none⟩)], hvideo, rfl, ?_,
        rfl, by decide, ?_⟩,
    ⟨_, _, [(7, ⟨9, 0, false, false, none, some 1, some ⟨0x6D, 0x70, 0x34, 0x61⟩, [1, 2], [], none⟩)],
      haudio, rfl, ?_, rfl, by decide, ?_⟩⟩
  · decide +kernel
  · exact (hinVideo _ _ _ hvideo rfl (by decide +kernel)).mpr (by decide)
  · decide +kernel
  · exact (hinAudio _ _ _ haudio rfl (by decide +kernel)).mpr (by decide)

/-- **Nested modifiers**: under a ModEx packet type, the FourCC of a track and the first bytes of its
body are read as a modifier of the tag, and the FourCC that follows is its codec. -/
theorem demuxTracks_nestedModEx :
    let payload : List UInt8 := [0x96, 0x07, 0x68, 0x76, 0x63, 0x31, 0] ++ List.replicate 102 0 ++
      [0x01, 0x61, 0x76, 0x63, 0x31, 0, 0, 0, 0xAA]
    ∃ outer mt tag, parseVideo payload = .ok outer ∧ outer.multitrack = some mt ∧
      outer.exPacketType = some exPacketTypeModEx ∧ outer.fourcc = some fourccHevc ∧
      outer.demuxTracks = .ok [(0, tag)] ∧ tag.modEx ≠ [] ∧
      tag.exPacketType = some exPacketTypeCodedFrames ∧ tag.fourcc = some fourccAvc ∧
      tag.body = [0xAA] ∧
      ¬ List.Forall₂ (fun track tag => tag.1 = track.trackId ∧ outer.Track track tag.2) mt.tracks
        [(0, tag)] := by
  intro payload
  let body : List UInt8 := List.replicate 102 0 ++ [0x01, 0x61, 0x76, 0x63, 0x31, 0, 0, 0, 0xAA]
  let modifier : ModEx := ⟨0, [0x76, 0x63, 0x31] ++ List.replicate 102 0⟩
  refine ⟨⟨1, 0, none, 0, [], some 7, some fourccHevc, [], some ⟨0, [⟨none, 0, body⟩]⟩⟩, _,
    ⟨1, 0, none, 0, [0xAA], some 1, some fourccAvc, [modifier], none⟩, by decide +kernel, rfl, rfl, rfl,
    by decide +kernel, nofun, rfl, rfl, rfl, ?_⟩
  rintro (- | ⟨⟨-, htrack⟩, -⟩)
  exact absurd htrack.modEx (by simp)

end Rtmp.Flv
