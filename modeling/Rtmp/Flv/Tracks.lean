import Rtmp.Flv.Audio
import Rtmp.Flv.Video

/-!
Tags of single tracks in one multitrack tag, and back.

* `planMultitrack`: what the tags of a multitrack tag must have in common, for audio and for video;
* `VideoTag.multitrackFromTags`, `AudioTag.multitrackFromTags`: the tags as tracks, without the first
  byte and the FourCC of each;
* `VideoTag.demuxTracks`, `AudioTag.demuxTracks`: the tags again, with a first byte of their own;
* `demuxTracks_multitrackFromTags` (**inverse**): whatever is put into one tag is taken out of it again
  on the other side of the wire, and modifiers of the whole message change nothing.
-/

namespace Rtmp.Flv

/-! ### The plan -/

/-- What the plan looks at in one kind of tags, and how its errors name the kind. -/
structure TrackKind (T : Type) where
  fourcc : T → Option FourCc
  exPacketType : T → Option UInt8
  isMultitrack : T → Bool
  hasModEx : T → Bool
  ptMultitrack : UInt8
  ptModEx : UInt8
  kind : String

/-- The fields of the outer tag, and whether every track has a FourCC of its own. -/
structure MultitrackPlan where
  innerPacketType : UInt8
  sharedFourcc : Option FourCc
  perTrackFourcc : Bool
  deriving DecidableEq, Repr

section Plan

variable {T : Type} (k : TrackKind T)

/-- An error of `multitrack_from_tags`. -/
def TrackKind.error (text : String) : Error :=
  .other ("multitrack_from_tags (" ++ k.kind ++ "): " ++ text)

/-- One tag is a plain enhanced tag with the packet type of the message. -/
def checkTrack (innerPt : UInt8) (track : UInt8 × T) : Except Error Unit :=
  if k.isMultitrack track.2 then
    .error (k.error ("track " ++ toString track.1 ++ " is itself a Multitrack tag"))
  else if k.hasModEx track.2 then
    .error (k.error ("track " ++ toString track.1 ++
      " carries a ModEx prelude (message-level ModEx belongs on the outer tag)"))
  else if k.exPacketType track.2 ≠ some innerPt then
    .error (k.error ("track " ++ toString track.1 ++
      " PacketType differs (the wire carries one inner PacketType per message)"))
  else if k.fourcc track.2 = none then
    .error (k.error ("track " ++ toString track.1 ++ " is not an Enhanced-RTMP tag (no FourCC)"))
  else .ok ()

/-- Every tag is. -/
def checkTracks (innerPt : UInt8) : List (UInt8 × T) → Except Error Unit
  | [] => .ok ()
  | track :: tracks => do
      checkTrack k innerPt track
      checkTracks innerPt tracks

/-- The FourCC of the message, unless every track has one of its own. -/
def sharedFourcc (manyCodecs : Bool) (first : T) (tracks : List (UInt8 × T)) :
    Except Error (Option FourCc) :=
  if manyCodecs then .ok none
  else
    match tracks.find? fun track => k.fourcc track.2 ≠ k.fourcc first with
    | some track => .error (k.error ("track " ++ toString track.1 ++
        " FourCC differs — OneTrack / ManyTracks share one codec; use ManyTracksManyCodecs"))
    | none => .ok (k.fourcc first)

/-- The packet type of the first tag, which the tracks will have. -/
def innerPacketType (track : UInt8 × T) : Except Error UInt8 :=
  match k.exPacketType track.2 with
  | none => .error (k.error ("track " ++ toString track.1 ++
      " is not an Enhanced-RTMP tag (no PacketType)"))
  | some innerPt =>
      if innerPt = k.ptMultitrack ∨ innerPt = k.ptModEx then
        .error (k.error ("inner PacketType " ++ toString innerPt ++
          " is reserved (Multitrack / ModEx cannot nest)"))
      else .ok innerPt

def planMultitrack (multitrackType : UInt8) : List (UInt8 × T) → Except Error MultitrackPlan
  | [] => .error (k.error "need at least one track")
  | first :: rest => do
      if multitrackType = avMultitrackTypeOneTrack ∧ rest ≠ [] then
        throw (k.error ("OneTrack mode carries exactly one track, got " ++
          toString (first :: rest).length))
      let innerPt ← innerPacketType k first
      checkTracks k innerPt (first :: rest)
      let manyCodecs : Bool := multitrackType = avMultitrackTypeManyTracksManyCodecs
      let shared ← sharedFourcc k manyCodecs first.2 (first :: rest)
      pure ⟨innerPt, shared, manyCodecs⟩

end Plan

/-! ### The tags as tracks, and back -/

/-- The track that carries a tag: the FourCC if the plan says so, and `wire` behind its first byte and
its FourCC. -/
def toTrack (perTrackFourcc : Bool) (fourcc : Option FourCc) (trackId : UInt8) (wire : List UInt8) :
    MultitrackTrack where
  fourcc := if perTrackFourcc then fourcc else none
  trackId := trackId
  body := wire.drop 5

/-- The tags of tracks: each is read from `head`, its FourCC and its body. -/
def demux {T : Type} (what : String) (head : UInt8) (shared : Option FourCc)
    (parse : List UInt8 → Except Error T) : List MultitrackTrack → Except Error (List (UInt8 × T))
  | [] => .ok []
  | track :: tracks => do
      let fcc ← match track.fourcc.or shared with
        | some fcc => .ok fcc
        | none => .error (.other (what ++ "::demux_tracks: track " ++ toString track.trackId ++
            " has no FourCC (neither per-track nor shared)"))
      let tag ← (parse (head :: (fcc.bytes ++ track.body))).mapError fun e =>
        .other (what ++ "::demux_tracks: track " ++ toString track.trackId ++
          " body failed to parse: " ++ e.display)
      let tags ← demux what head shared parse tracks
      pure ((track.trackId, tag) :: tags)

def VideoTag.trackKind : TrackKind VideoTag where
  fourcc := VideoTag.fourcc
  exPacketType := VideoTag.exPacketType
  isMultitrack tag := tag.multitrack.isSome
  hasModEx tag := !tag.modEx.isEmpty
  ptMultitrack := exPacketTypeMultitrack
  ptModEx := exPacketTypeModEx
  kind := "video"

def VideoTag.multitrackTag (frameType realPacketType : UInt8) (shared : Option FourCc)
    (mt : Multitrack) : VideoTag where
  frameType := frameType
  codecId := 0
  avcPacketType := none
  compositionTime := 0
  body := []
  exPacketType := some realPacketType
  fourcc := shared
  modEx := []
  multitrack := some mt

/-- One frame type for all tracks. -/
def VideoTag.checkFrameTypes (frameType : UInt8) (tracks : List (UInt8 × VideoTag)) :
    Except Error Unit :=
  match tracks.find? fun track => track.2.frameType ≠ frameType with
  | some track => .error (.other ("multitrack_from_tags: track " ++ toString track.1 ++
      " FrameType differs (the outer header carries one FrameType per message)"))
  | none => .ok ()

def VideoTag.multitrackFromTags (multitrackType : UInt8) (tracks : List (UInt8 × VideoTag)) :
    Except Error VideoTag := do
  let plan ← planMultitrack VideoTag.trackKind multitrackType tracks
  let frameType := (tracks.head?.map fun track => track.2.frameType).getD 0
  VideoTag.checkFrameTypes frameType tracks
  pure (VideoTag.multitrackTag frameType plan.innerPacketType plan.sharedFourcc
    ⟨multitrackType, tracks.map fun track =>
      toTrack plan.perTrackFourcc track.2.fourcc track.1 (buildVideo track.2)⟩)

def VideoTag.demuxTracks (tag : VideoTag) : Except Error (List (UInt8 × VideoTag)) :=
  match tag.multitrack, tag.exPacketType with
  | none, _ => .error (.other "VideoTag::demux_tracks: tag is not a Multitrack message")
  | some _, none => .error (.other "VideoTag::demux_tracks: multitrack tag lacks inner PacketType")
  | some mt, some innerPt =>
      demux "VideoTag" (exVideoHead tag.frameType innerPt) tag.fourcc parseVideo mt.tracks

def AudioTag.trackKind : TrackKind AudioTag where
  fourcc := AudioTag.audioFourcc
  exPacketType := AudioTag.exPacketType
  isMultitrack tag := tag.multitrack.isSome
  hasModEx tag := !tag.modEx.isEmpty
  ptMultitrack := audioPacketTypeMultitrack
  ptModEx := audioPacketTypeModEx
  kind := "audio"

def AudioTag.multitrackTag (realPacketType : UInt8) (shared : Option FourCc) (mt : Multitrack) :
    AudioTag where
  soundFormat := audioFormatExHeader
  soundRate := 0
  soundSize16bit := false
  stereo := false
  aacPacketType := none
  exPacketType := some realPacketType
  audioFourcc := shared
  body := []
  modEx := []
  multitrack := some mt

def AudioTag.multitrackFromTags (multitrackType : UInt8) (tracks : List (UInt8 × AudioTag)) :
    Except Error AudioTag := do
  let plan ← planMultitrack AudioTag.trackKind multitrackType tracks
  pure (AudioTag.multitrackTag plan.innerPacketType plan.sharedFourcc
    ⟨multitrackType, tracks.map fun track =>
      toTrack plan.perTrackFourcc track.2.audioFourcc track.1 (buildAudio track.2)⟩)

def AudioTag.demuxTracks (tag : AudioTag) : Except Error (List (UInt8 × AudioTag)) :=
  match tag.multitrack, tag.exPacketType with
  | none, _ => .error (.other "AudioTag::demux_tracks: tag is not a Multitrack message")
  | some _, none => .error (.other "AudioTag::demux_tracks: multitrack tag lacks inner PacketType")
  | some mt, some innerPt =>
      demux "AudioTag" (exAudioHead innerPt) tag.audioFourcc parseAudio mt.tracks

/-! ### What was planned -/

/-- What a plan for tags promises. -/
structure MultitrackPlan.Fits {T : Type} (k : TrackKind T) (ty : UInt8) (tracks : List (UInt8 × T))
    (plan : MultitrackPlan) : Prop where
  nonempty : tracks ≠ []
  one : ty = avMultitrackTypeOneTrack → tracks.length = 1
  inner : plan.innerPacketType ≠ k.ptMultitrack ∧ plan.innerPacketType ≠ k.ptModEx
  plain : ∀ track ∈ tracks, k.isMultitrack track.2 = false ∧ k.hasModEx track.2 = false ∧
    k.exPacketType track.2 = some plan.innerPacketType
  perTrack : plan.perTrackFourcc = decide (ty = avMultitrackTypeManyTracksManyCodecs)
  shared : plan.sharedFourcc = none ↔ ty = avMultitrackTypeManyTracksManyCodecs
  fourcc : ∀ track ∈ tracks, ∃ fcc, k.fourcc track.2 = some fcc ∧
    (ty ≠ avMultitrackTypeManyTracksManyCodecs → plan.sharedFourcc = some fcc)

section Plan

variable {T : Type} {k : TrackKind T} {ty : UInt8} {tracks : List (UInt8 × T)}

lemma checkTrack_eq_ok {innerPt : UInt8} {track : UInt8 × T} (h : checkTrack k innerPt track = .ok ()) :
    (k.isMultitrack track.2 = false ∧ k.hasModEx track.2 = false ∧
      k.exPacketType track.2 = some innerPt) ∧ k.fourcc track.2 ≠ none := by
  rw [checkTrack] at h
  split_ifs at h with hmulti hmod hpacket hfourcc
  exact ⟨⟨eq_false_of_ne_true hmulti, eq_false_of_ne_true hmod, not_not.mp hpacket⟩, hfourcc⟩

lemma checkTracks_eq_ok {innerPt : UInt8} (h : checkTracks k innerPt tracks = .ok ()) :
    ∀ track ∈ tracks, (k.isMultitrack track.2 = false ∧ k.hasModEx track.2 = false ∧
      k.exPacketType track.2 = some innerPt) ∧ k.fourcc track.2 ≠ none := by
  induction tracks with
  | nil => exact fun track htrack => absurd htrack List.not_mem_nil
  | cons first rest ih =>
      rw [checkTracks] at h
      cases hfirst : checkTrack k innerPt first with
      | error e =>
          rw [hfirst] at h
          cases h
      | ok u =>
          rw [hfirst] at h
          intro track htrack
          rcases List.mem_cons.mp htrack with rfl | hrest
          · exact checkTrack_eq_ok hfirst
          · exact ih h track hrest

lemma sharedFourcc_eq_ok {manyCodecs : Bool} {first : T} {shared : Option FourCc}
    (h : sharedFourcc k manyCodecs first tracks = .ok shared) :
    (manyCodecs = true → shared = none) ∧
      (manyCodecs = false → shared = k.fourcc first ∧ ∀ track ∈ tracks, k.fourcc track.2 = shared) := by
  rw [sharedFourcc] at h
  cases manyCodecs with
  | true =>
      cases h
      exact ⟨fun _ => rfl, nofun⟩
  | false =>
      rw [if_neg Bool.false_ne_true] at h
      cases hfind : tracks.find? fun track => k.fourcc track.2 ≠ k.fourcc first with
      | some track =>
          rw [hfind] at h
          cases h
      | none =>
          rw [hfind] at h
          cases h
          refine ⟨nofun, fun _ => ⟨rfl, fun track htrack => ?_⟩⟩
          simpa using List.find?_eq_none.mp hfind track htrack

lemma innerPacketType_eq_ok {track : UInt8 × T} {innerPt : UInt8}
    (h : innerPacketType k track = .ok innerPt) : innerPt ≠ k.ptMultitrack ∧ innerPt ≠ k.ptModEx := by
  rw [innerPacketType] at h
  cases hpacket : k.exPacketType track.2 with
  | none =>
      rw [hpacket] at h
      cases h
  | some pt =>
      rw [hpacket] at h
      simp only at h
      split_ifs at h with hreserved
      cases h
      exact not_or.mp hreserved

/-- A plan fits the tags it was made for. -/
theorem planMultitrack_eq_ok {plan : MultitrackPlan} (h : planMultitrack k ty tracks = .ok plan) :
    plan.Fits k ty tracks := by
  cases tracks with
  | nil => cases h
  | cons first rest =>
      rw [planMultitrack] at h
      -- one guard after the other, each of them a field of the plan
      by_cases hmore : ty = avMultitrackTypeOneTrack ∧ rest ≠ []
      · rw [if_pos hmore] at h
        cases h
      simp only [if_neg hmore] at h
      obtain ⟨innerPt, hinner, h⟩ := Eff.except_bind_eq_ok.mp h
      obtain ⟨_, hcheck, h⟩ := Eff.except_bind_eq_ok.mp h
      obtain ⟨shared, hshared, h⟩ := Eff.except_bind_eq_ok.mp h
      cases h
      have hplain := checkTracks_eq_ok hcheck
      obtain ⟨hmany, hone⟩ := sharedFourcc_eq_ok hshared
      have hfirst := (hplain first List.mem_cons_self).2
      refine ⟨List.cons_ne_nil _ _, fun hty => ?_, innerPacketType_eq_ok hinner,
        fun track htrack => (hplain track htrack).1, rfl, ⟨fun hnone => ?_, fun hty => ?_⟩,
        fun track htrack => ?_⟩
      · have hrest : rest = [] := by
          by_contra hne
          exact hmore ⟨hty, hne⟩
        rw [hrest, List.length_singleton]
      · by_contra hty
        obtain ⟨hsame, -⟩ := hone (decide_eq_false hty)
        exact hfirst (hsame.symm.trans hnone)
      · exact hmany (decide_eq_true hty)
      · obtain ⟨fcc, hfcc⟩ := Option.ne_none_iff_exists'.mp (hplain track htrack).2
        refine ⟨fcc, hfcc, fun hty => ?_⟩
        rw [← hfcc, (hone (decide_eq_false hty)).2 track htrack]

end Plan

/-! ### There and back -/

/-- Tracks come out as the tags that went in, if what is read for each is the wire it was made from. -/
lemma demux_toTrack {T : Type} {k : TrackKind T} {ty : UInt8} {tracks : List (UInt8 × T)}
    {plan : MultitrackPlan} (hplan : plan.Fits k ty tracks) {what : String} {head : UInt8}
    {build : T → List UInt8} {parse : List UInt8 → Except Error T}
    (hbuild : ∀ track ∈ tracks, ∀ fcc, k.fourcc track.2 = some fcc →
      head :: (fcc.bytes ++ (build track.2).drop 5) = build track.2)
    (hparse : ∀ track ∈ tracks, parse (build track.2) = .ok track.2) :
    demux what head plan.sharedFourcc parse (tracks.map fun track =>
      toTrack plan.perTrackFourcc (k.fourcc track.2) track.1 (build track.2)) = .ok tracks := by
  have hfourcc := hplan.fourcc
  have hperTrack := hplan.perTrack
  clear hplan
  induction tracks with
  | nil => rfl
  | cons track tracks ih =>
      obtain ⟨fcc, hfcc, hshared⟩ := hfourcc track List.mem_cons_self
      have hor : (if plan.perTrackFourcc then k.fourcc track.2 else none).or plan.sharedFourcc
          = some fcc := by
        rw [hperTrack]
        by_cases hty : ty = avMultitrackTypeManyTracksManyCodecs
        · rw [decide_eq_true hty, if_pos rfl, hfcc]
          rfl
        · rw [decide_eq_false hty, if_neg Bool.false_ne_true, hshared hty]
          rfl
      have hrest := ih (fun t ht => hbuild t (List.mem_cons_of_mem _ ht))
        (fun t ht => hparse t (List.mem_cons_of_mem _ ht))
        fun t ht => hfourcc t (List.mem_cons_of_mem _ ht)
      have hread : parse (head :: (fcc.bytes ++ (build track.2).drop 5)) = .ok track.2 := by
        rw [hbuild track List.mem_cons_self fcc hfcc, hparse track List.mem_cons_self]
      rw [List.map_cons, demux]
      simp only [toTrack, hor] at hrest ⊢
      refine Eff.except_bind_eq_ok.mpr ⟨fcc, rfl, Eff.except_bind_eq_ok.mpr ⟨track.2, ?_, ?_⟩⟩
      · rw [hread]
        rfl
      · exact Eff.except_bind_eq_ok.mpr ⟨tracks, hrest, rfl⟩

section Video

variable {tag : VideoTag} {inner : UInt8} {fcc : FourCc}

/-- A plain enhanced tag is its first byte, its FourCC and the rest. -/
lemma buildVideo_plain (hmulti : tag.multitrack.isSome = false) (hmod : (!tag.modEx.isEmpty) = false)
    (hinner : tag.exPacketType = some inner) (hfcc : tag.fourcc = some fcc) :
    exVideoHead tag.frameType inner :: (fcc.bytes ++ (buildVideo tag).drop 5) = buildVideo tag := by
  obtain ⟨frameType, codecId, avcPacketType, cts, body, exPacketType, fourcc, modEx, multitrack⟩ := tag
  cases hinner
  cases hfcc
  cases modEx with
  | cons e es => cases hmod
  | nil =>
      cases multitrack with
      | some mt => cases hmulti
      | none => rfl

/-- The fields of the outer tag fit the wire. -/
lemma wellFormed_plain (hwell : tag.WellFormed) (hmulti : tag.multitrack.isSome = false)
    (hinner : tag.exPacketType = some inner) : tag.frameType.toNat < 8 ∧ inner.toNat < 16 := by
  cases hwell with
  | legacy => cases hinner
  | avc => cases hinner
  | enhanced hframe hheader _ =>
      cases hinner
      exact ⟨hframe, hheader.packetType_lt⟩
  | multitrack => cases hmulti

lemma frameType_of_check {frameType : UInt8} {tracks : List (UInt8 × VideoTag)} {u : Unit}
    (h : VideoTag.checkFrameTypes frameType tracks = .ok u) :
    ∀ track ∈ tracks, track.2.frameType = frameType := by
  rw [VideoTag.checkFrameTypes] at h
  cases hfind : tracks.find? fun track => track.2.frameType ≠ frameType with
  | some other =>
      rw [hfind] at h
      cases h
  | none =>
      intro track htrack
      simpa using List.find?_eq_none.mp hfind track htrack

end Video

section Audio

variable {tag : AudioTag} {inner : UInt8} {fcc : FourCc}

lemma buildAudio_plain (hmulti : tag.multitrack.isSome = false) (hmod : (!tag.modEx.isEmpty) = false)
    (hinner : tag.exPacketType = some inner) (hfcc : tag.audioFourcc = some fcc) :
    exAudioHead inner :: (fcc.bytes ++ (buildAudio tag).drop 5) = buildAudio tag := by
  obtain ⟨soundFormat, soundRate, soundSize16bit, stereo, aacPacketType, exPacketType, audioFourcc,
    body,
    modEx, multitrack⟩ := tag
  cases hinner
  cases hfcc
  cases modEx with
  | cons e es => cases hmod
  | nil =>
      cases multitrack with
      | some mt => cases hmulti
      | none => rfl

lemma wellFormed_plainAudio (hwell : tag.WellFormed) (hmulti : tag.multitrack.isSome = false)
    (hinner : tag.exPacketType = some inner) : inner.toNat < 16 := by
  cases hwell with
  | legacy => cases hinner
  | aac => cases hinner
  | enhanced hheader =>
      cases hinner
      exact hheader.packetType_lt
  | multitrack => cases hmulti

end Audio

/-- The tracks of a plan are a well-formed list. -/
lemma wellFormed_tracks {T : Type} {k : TrackKind T} {ty : UInt8} {tracks : List (UInt8 × T)}
    {plan : MultitrackPlan} (hplan : plan.Fits k ty tracks) (hty : ty.toNat < 16)
    {build : T → List UInt8} (hsize : ty ≠ avMultitrackTypeOneTrack →
      ∀ track ∈ tracks, ((build track.2).drop 5).length < 2 ^ 24) :
    Multitrack.WellFormed ⟨ty, tracks.map fun track =>
      toTrack plan.perTrackFourcc (k.fourcc track.2) track.1 (build track.2)⟩ where
  type_lt := hty
  nonempty h := hplan.nonempty (List.map_eq_nil_iff.mp h)
  one hone := by rw [List.length_map, hplan.one hone]
  tracks := by
    intro t ht
    obtain ⟨track, htrack, rfl⟩ := List.mem_map.mp ht
    obtain ⟨fcc, hfcc, -⟩ := hplan.fourcc track htrack
    refine ⟨?_, fun hone => hsize hone track htrack⟩
    rw [toTrack, hfcc, hplan.perTrack]
    by_cases hmany : ty = avMultitrackTypeManyTracksManyCodecs <;> simp [hmany]

/-- The header of the outer tag is well formed, with any well-formed modifiers. -/
lemma wellFormed_outerHeader {T : Type} {k : TrackKind T} {ty : UInt8} {tracks : List (UInt8 × T)}
    {plan : MultitrackPlan} (hplan : plan.Fits k ty tracks) (hty : ty.toNat < 16)
    (hinner : plan.innerPacketType.toNat < 16) {modEx : List ModEx} (hmod : ∀ e ∈ modEx, e.WellFormed) :
    ExHeader.WellFormed ⟨modEx, some ty, plan.innerPacketType, plan.sharedFourcc⟩ k.ptModEx
      k.ptMultitrack where
  modEx := hmod
  type_lt := by
    rintro _ ⟨⟩
    exact hty
  packetType_lt := hinner
  not_multitrack := hplan.inner.1
  not_modEx := nofun
  fourcc := hplan.shared.trans (by rw [Option.some.injEq])

/-- The tags put into one tag are plain enhanced ones. -/
lemma VideoTag.plain_of_multitrackFromTags {ty : UInt8} {tracks : List (UInt8 × VideoTag)}
    {outer : VideoTag} (hmux : VideoTag.multitrackFromTags ty tracks = .ok outer) :
    ∀ track ∈ tracks, track.2.multitrack.isSome = false ∧ (!track.2.modEx.isEmpty) = false ∧
      ∃ inner, track.2.exPacketType = some inner := by
  obtain ⟨plan, hplan, -⟩ := Eff.except_bind_eq_ok.mp hmux
  intro track htrack
  obtain ⟨hmulti, hmod, hpacket⟩ := (planMultitrack_eq_ok hplan).plain track htrack
  exact ⟨hmulti, hmod, _, hpacket⟩

lemma AudioTag.plain_of_multitrackFromTags {ty : UInt8} {tracks : List (UInt8 × AudioTag)}
    {outer : AudioTag} (hmux : AudioTag.multitrackFromTags ty tracks = .ok outer) :
    ∀ track ∈ tracks, track.2.multitrack.isSome = false ∧ (!track.2.modEx.isEmpty) = false ∧
      ∃ inner, track.2.exPacketType = some inner := by
  obtain ⟨plan, hplan, -⟩ := Eff.except_bind_eq_ok.mp hmux
  intro track htrack
  obtain ⟨hmulti, hmod, hpacket⟩ := (planMultitrack_eq_ok hplan).plain track htrack
  exact ⟨hmulti, hmod, _, hpacket⟩

/-- What is put into one video tag is taken out of it on the other side of the wire. -/
theorem VideoTag.demuxTracks_multitrack {ty : UInt8} (hty : ty.toNat < 16)
    {tracks : List (UInt8 × VideoTag)} (hwell : ∀ track ∈ tracks, track.2.WellFormed)
    (hsize : ty ≠ avMultitrackTypeOneTrack →
      ∀ track ∈ tracks, ((buildVideo track.2).drop 5).length < 2 ^ 24)
    {outer : VideoTag} (hmux : VideoTag.multitrackFromTags ty tracks = .ok outer)
    {modEx : List ModEx} (hmod : ∀ e ∈ modEx, e.WellFormed) :
    parseVideo (buildVideo { outer with modEx := modEx }) = .ok { outer with modEx := modEx } ∧
      outer.multitrack.isSome = true ∧ { outer with modEx := modEx }.demuxTracks = .ok tracks := by
  obtain ⟨plan, hplan, hmux⟩ := Eff.except_bind_eq_ok.mp hmux
  obtain ⟨_, hframes, hmux⟩ := Eff.except_bind_eq_ok.mp hmux
  cases hmux
  have hfits := planMultitrack_eq_ok hplan
  obtain ⟨first, rest, rfl⟩ := List.exists_cons_of_ne_nil hfits.nonempty
  have hplain := hfits.plain first List.mem_cons_self
  obtain ⟨hframe, hinner⟩ := wellFormed_plain (hwell first List.mem_cons_self) hplain.1 hplain.2.2
  have hframeTypes : ∀ track ∈ first :: rest, track.2.frameType = first.2.frameType :=
    frameType_of_check hframes
  have houter := VideoTag.WellFormed.multitrack hframe (wellFormed_outerHeader hfits hty hinner hmod)
    (wellFormed_tracks hfits hty hsize)
  refine ⟨parseVideo_buildVideo_of_wellFormed houter, rfl, ?_⟩
  refine demux_toTrack hfits (fun track htrack fcc hfcc => ?_) fun track htrack =>
    parseVideo_buildVideo_of_wellFormed (hwell track htrack)
  obtain ⟨hmulti, hmod, hpacket⟩ := hfits.plain track htrack
  have hbuild := buildVideo_plain hmulti hmod hpacket hfcc
  rw [hframeTypes track htrack] at hbuild
  exact hbuild

/-- The same for audio. -/
theorem AudioTag.demuxTracks_multitrack {ty : UInt8} (hty : ty.toNat < 16)
    {tracks : List (UInt8 × AudioTag)} (hwell : ∀ track ∈ tracks, track.2.WellFormed)
    (hsize : ty ≠ avMultitrackTypeOneTrack →
      ∀ track ∈ tracks, ((buildAudio track.2).drop 5).length < 2 ^ 24)
    {outer : AudioTag} (hmux : AudioTag.multitrackFromTags ty tracks = .ok outer)
    {modEx : List ModEx} (hmod : ∀ e ∈ modEx, e.WellFormed) :
    parseAudio (buildAudio { outer with modEx := modEx }) = .ok { outer with modEx := modEx } ∧
      outer.multitrack.isSome = true ∧ { outer with modEx := modEx }.demuxTracks = .ok tracks := by
  obtain ⟨plan, hplan, hmux⟩ := Eff.except_bind_eq_ok.mp hmux
  cases hmux
  have hfits := planMultitrack_eq_ok hplan
  obtain ⟨first, rest, rfl⟩ := List.exists_cons_of_ne_nil hfits.nonempty
  have hplain := hfits.plain first List.mem_cons_self
  have hinner := wellFormed_plainAudio (hwell first List.mem_cons_self) hplain.1 hplain.2.2
  have houter := AudioTag.WellFormed.multitrack (wellFormed_outerHeader hfits hty hinner hmod)
    (wellFormed_tracks hfits hty hsize)
  refine ⟨parseAudio_buildAudio_of_wellFormed houter, rfl, ?_⟩
  refine demux_toTrack hfits (fun track htrack fcc hfcc => ?_) fun track htrack =>
    parseAudio_buildAudio_of_wellFormed (hwell track htrack)
  obtain ⟨hmulti, hmod, hpacket⟩ := hfits.plain track htrack
  exact buildAudio_plain hmulti hmod hpacket hfcc

/-- **Inverse**: the tags that `multitrack_from_tags` puts into one tag, of either kind and in any of
the sixteen modes, are taken out of it again on the other side of the wire, all of them and in order,
whatever modifiers the outer tag was given. -/
theorem demuxTracks_multitrackFromTags (ty : UInt8) (hty : ty.toNat < 16) (modEx : List ModEx)
    (hmod : ∀ e ∈ modEx, e.WellFormed) :
    (∀ (tracks : List (UInt8 × VideoTag)) (outer : VideoTag),
      (∀ track ∈ tracks, track.2.WellFormed) →
      VideoTag.multitrackFromTags ty tracks = .ok outer →
      (ty ≠ avMultitrackTypeOneTrack →
        ∀ track ∈ tracks, ((buildVideo track.2).drop 5).length < 2 ^ 24) →
      ∃ tag, parseVideo (buildVideo { outer with modEx := modEx }) = .ok tag ∧
        tag.demuxTracks = .ok tracks) ∧
    ∀ (tracks : List (UInt8 × AudioTag)) (outer : AudioTag),
      (∀ track ∈ tracks, track.2.WellFormed) →
      AudioTag.multitrackFromTags ty tracks = .ok outer →
      (ty ≠ avMultitrackTypeOneTrack →
        ∀ track ∈ tracks, ((buildAudio track.2).drop 5).length < 2 ^ 24) →
      ∃ tag, parseAudio (buildAudio { outer with modEx := modEx }) = .ok tag ∧
        tag.demuxTracks = .ok tracks :=
  ⟨fun _ _ hwell hmux hsize =>
      let ⟨hparse, _, hdemux⟩ := VideoTag.demuxTracks_multitrack hty hwell hsize hmux hmod
      ⟨_, hparse, hdemux⟩,
    fun _ _ hwell hmux hsize =>
      let ⟨hparse, _, hdemux⟩ := AudioTag.demuxTracks_multitrack hty hwell hsize hmux hmod
      ⟨_, hparse, hdemux⟩⟩

/-- Two coded frames with composition times, each with a codec of its own, and one of audio. -/
theorem demuxTracks_multitrackFromTags_two :
    let a : VideoTag := ⟨1, 0, none, -2, [0xAA], some 1, some fourccHevc, [], none⟩
    let b : VideoTag := ⟨1, 0, none, 40, [0xBB, 0xCC], some 1, some fourccAvc, [], none⟩
    let c : AudioTag := ⟨9, 0, false, false, none, some 1, some ⟨0x6D, 0x70, 0x34, 0x61⟩, [1], [], none⟩
    ∃ v w, VideoTag.multitrackFromTags 2 [(0, a), (1, b)] = .ok v ∧
      AudioTag.multitrackFromTags 2 [(7, c)] = .ok w ∧
      (∃ tag, parseVideo (buildVideo { v with modEx := [⟨0, [0, 0, 5]⟩] }) = .ok tag ∧
        tag.demuxTracks = .ok [(0, a), (1, b)]) ∧
      ∃ tag, parseAudio (buildAudio { w with modEx := [⟨0, [0, 0, 5]⟩] }) = .ok tag ∧
        tag.demuxTracks = .ok [(7, c)] := by
  intro a b c
  have hmod : ∀ e ∈ ([⟨0, [0, 0, 5]⟩] : List ModEx), e.WellFormed := by
    intro e he
    rw [List.mem_singleton.mp he]
    exact ⟨by decide, by decide, by decide⟩
  obtain ⟨hvideo, haudio⟩ := demuxTracks_multitrackFromTags 2 (by decide) _ hmod
  have ha : a.WellFormed := parseVideo_buildVideo_iff.mp (by decide +kernel)
  have hb : b.WellFormed := parseVideo_buildVideo_iff.mp (by decide +kernel)
  have hback : parseAudio (buildAudio c) = .ok c := by decide +kernel
  have hc : c.WellFormed := (parseAudio_eq_ok hback).1
  refine ⟨_, _, rfl, rfl, hvideo [(0, a), (1, b)] _ ?_ rfl ?_, haudio [(7, c)] _ ?_ rfl ?_⟩
  · intro track htrack
    rcases List.mem_pair.mp htrack with rfl | rfl
    · exact ha
    · exact hb
  · decide +kernel
  · intro track htrack
    rw [List.mem_singleton.mp htrack]
    exact hc
  · decide +kernel

end Rtmp.Flv
