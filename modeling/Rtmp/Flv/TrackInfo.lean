import Rtmp.Flv.MetaData

/-!
The maps of `onMetaData` from track ids to what is known of the tracks.

* `TrackInfo`, `TrackInfo.fromAmf0`, `TrackInfo.toAmf0`: an entry; here a value of another type than its
  field's is kept with the other properties, and so `TrackInfo.schema` keeps misfits;
* `trackInfo`, `setTrackInfo`: an entry by track id, in the raw map that came from the peer;
* `TrackCall`, `OnMetaData.apply`: the calls that set entries, of either map;
* `trackInfoOf_apply`, `filter_apply`: what one call does to the entry of an id, and to the others;
* `trackInfo_foldl_apply` (**a keyed store**): after any calls, an id has what was last set for it, or
  what it had, and the entries of other keys are as they were.
-/

namespace Rtmp.Flv

structure TrackInfo where
  width : Option Binary64
  height : Option Binary64
  videodatarate : Option Binary64
  videocodecid : Option Binary64
  audiodatarate : Option Binary64
  channels : Option Binary64
  samplerate : Option Binary64
  audiocodecid : Option Binary64
  extra : List (String × Amf0Value)
  deriving Repr

namespace TrackInfo

def default : TrackInfo := ⟨none, none, none, none, none, none, none, none, []⟩

/-- Read one property: a number into its field, and anything else behind the others. -/
def setProperty (info : TrackInfo) (p : String × Amf0Value) : TrackInfo :=
  match p.1, p.2.asF64 with
  | "width", some n => { info with width := some n }
  | "height", some n => { info with height := some n }
  | "videodatarate", some n => { info with videodatarate := some n }
  | "videocodecid", some n => { info with videocodecid := some n }
  | "audiodatarate", some n => { info with audiodatarate := some n }
  | "channels", some n => { info with channels := some n }
  | "samplerate", some n => { info with samplerate := some n }
  | "audiocodecid", some n => { info with audiocodecid := some n }
  | _, _ => { info with extra := info.extra ++ [p] }

def fromAmf0 : Amf0Value → Except Error TrackInfo
  | .ecmaArray pairs | .object pairs => .ok (pairs.foldl setProperty default)
  | _ => .error (.other "trackIdInfoMap entry: value must be an Object or ECMA array")

def toAmf0 (info : TrackInfo) : Amf0Value :=
  .object (pushNum "width" info.width
    ++ (pushNum "height" info.height
    ++ (pushNum "videodatarate" info.videodatarate
    ++ (pushNum "videocodecid" info.videocodecid
    ++ (pushNum "audiodatarate" info.audiodatarate
    ++ (pushNum "channels" info.channels
    ++ (pushNum "samplerate" info.samplerate
    ++ (pushNum "audiocodecid" info.audiocodecid
    ++ info.extra))))))))

/-! ### The typical fields -/

/-- The typical fields, all of them numbers. -/
def schema : Schema String Amf0Value where
  fields := [("width", isNumber), ("height", isNumber), ("videodatarate", isNumber),
    ("videocodecid", isNumber), ("audiodatarate", isNumber), ("channels", isNumber),
    ("samplerate", isNumber), ("audiocodecid", isNumber)]
  nodup := by decide
  keepsMisfits := true

def typed (info : TrackInfo) : List (String × Option Amf0Value) :=
  [("width", info.width.map .number), ("height", info.height.map .number),
    ("videodatarate", info.videodatarate.map .number), ("videocodecid", info.videocodecid.map .number),
    ("audiodatarate", info.audiodatarate.map .number), ("channels", info.channels.map .number),
    ("samplerate", info.samplerate.map .number), ("audiocodecid", info.audiocodecid.map .number)]

lemma fits_typed (info : TrackInfo) : ∀ p ∈ Schema.present info.typed, schema.fits p = true := by
  rintro ⟨k, v⟩ hp
  have hrow := Schema.mem_present.mp hp
  simp only [typed, List.mem_cons, Prod.mk.injEq, List.not_mem_nil, or_false] at hrow
  rcases hrow with ⟨rfl, h⟩ | ⟨rfl, h⟩ | ⟨rfl, h⟩ | ⟨rfl, h⟩ | ⟨rfl, h⟩ | ⟨rfl, h⟩ | ⟨rfl, h⟩ | ⟨rfl, h⟩
  all_goals
    obtain ⟨w, -, rfl⟩ := Option.map_eq_some_iff.mp h.symm
    rfl

def record (info : TrackInfo) : schema.Record := ⟨info.typed, info.extra, rfl, info.fits_typed⟩

/-- A property is kept with the others if it has no field, or is no number. -/
lemma isOther_of {p : String × Amf0Value} (h : p.1 ∉ schema.names ∨ p.2.asF64 = none) :
    schema.isOther p = true := by
  rcases h with hname | hnumber
  · exact Schema.isOther_of_not_mem hname
  · have hall : ∀ f ∈ schema.fields, f.2 = isNumber := by simp [schema]
    rw [Schema.isOther]
    cases hfind : schema.fields.find? fun f => f.1 = p.1 with
    | none => rfl
    | some f =>
        show (true && !f.2 p.2) = true
        rw [hall f (List.mem_of_find?_eq_some hfind), isNumber, hnumber]
        rfl

/-- A number is read into its field. -/
lemma record_field {info info' : TrackInfo} {k : String} {v : Amf0Value} {n : Binary64}
    (hnumber : v.asF64 = some n)
    (hfield : schema.fields.find? (fun f => f.1 = k) = some (k, isNumber))
    (htyped : info'.typed = OrderedMap.replace k ((some n).map .number) info.typed)
    (hextra : info'.extra = info.extra) : info'.record = info.record.insert (k, v) := by
  have hother : schema.isOther (k, v) = false := by
    rw [Schema.isOther, hfield]
    show (true && !isNumber v) = false
    rw [isNumber, hnumber]
    rfl
  have htaken : schema.taken (k, v) = (some n).map .number := by
    rw [Schema.taken, Schema.fits, hfield, ← hnumber, map_asF64]
  rw [Schema.Record.insert_of_not_isOther _ hother]
  ext1
  · rw [Schema.Record.typed_set, htaken]
    exact htyped
  · exact hextra

lemma record_setProperty (info : TrackInfo) (p : String × Amf0Value) :
    (info.setProperty p).record = info.record.insert p := by
  obtain ⟨k, v⟩ := p
  rw [setProperty]
  split
  case h_9 hnone =>
    have hother : schema.isOther (k, v) = true := by
      refine isOther_of ?_
      cases hnumber : v.asF64 with
      | none => exact .inr rfl
      | some n =>
          refine .inl ?_
          simp only [Schema.names, schema, List.map_cons, List.map_nil, List.mem_cons,
            List.not_mem_nil, or_false, not_or]
          simp_all
    rw [Schema.Record.insert_of_isOther _ hother]
    rfl
  all_goals
    rename_i hk hnumber
    obtain rfl : k = _ := hk
    exact record_field hnumber rfl rfl rfl

lemma record_foldl (info : TrackInfo) (pairs : List (String × Amf0Value)) :
    (pairs.foldl setProperty info).record = pairs.foldl Schema.Record.insert info.record := by
  induction pairs generalizing info with
  | nil => rfl
  | cons p pairs ih => rw [List.foldl_cons, ih, record_setProperty, List.foldl_cons]

lemma toAmf0_eq (info : TrackInfo) : info.toAmf0 = .object info.record.entries := by
  simp only [toAmf0, Schema.Record.entries, record, typed, present_cons, pushNum, List.append_assoc]
  rfl

lemma record_injective {info info' : TrackInfo} (h : info.record = info'.record) : info = info' := by
  have htyped : info.typed = info'.typed := congrArg Schema.Record.typed h
  have hextra : info.extra = info'.extra := congrArg Schema.Record.extra h
  simp only [typed, List.cons.injEq, Prod.mk.injEq, true_and, and_true] at htyped
  obtain ⟨h1, h2, h3, h4, h5, h6, h7, h8⟩ := htyped
  cases info
  cases info'
  simp only [TrackInfo.mk.injEq]
  exact ⟨number_injective h1, number_injective h2, number_injective h3, number_injective h4,
    number_injective h5, number_injective h6, number_injective h7, number_injective h8, hextra⟩

/-- **Round trip**: an entry is read as it was written, if its other properties have no field or are no
numbers. -/
theorem fromAmf0_toAmf0_info {info : TrackInfo}
    (h : ∀ p ∈ info.extra, p.1 ∉ schema.names ∨ p.2.asF64 = none) :
    fromAmf0 info.toAmf0 = .ok info := by
  have hback := info.record.ofEntries_entries fun p hp => isOther_of (h p hp)
  rw [toAmf0_eq]
  refine congrArg Except.ok (record_injective ?_)
  exact (record_foldl default info.record.entries).trans hback

end TrackInfo

/-! ### The maps -/

/-- The entries of a map; what is no object has none. -/
def trackMapPairs : Option Amf0Value → List (String × Amf0Value)
  | some (.ecmaArray p) | some (.object p) => p
  | _ => []

def trackInfo (map : Option Amf0Value) (trackId : UInt8) : Except Error (Option TrackInfo) :=
  match (trackMapPairs map).find? fun e => e.1 = toString trackId with
  | some (_, v) => (TrackInfo.fromAmf0 v).map some
  | none => .ok none

def setTrackInfo (map : Option Amf0Value) (trackId : UInt8) (info : TrackInfo) : Option Amf0Value :=
  match map with
  | some (.ecmaArray p) => some (.ecmaArray (KeyedRow.upsert (toString trackId) info.toAmf0 p))
  | some (.object p) => some (.object (KeyedRow.upsert (toString trackId) info.toAmf0 p))
  | _ => some (.object [(toString trackId, info.toAmf0)])

namespace OnMetaData

def videoTrackInfo (m : OnMetaData) (trackId : UInt8) : Except Error (Option TrackInfo) :=
  trackInfo m.videoTrackIdInfoMap trackId

def audioTrackInfo (m : OnMetaData) (trackId : UInt8) : Except Error (Option TrackInfo) :=
  trackInfo m.audioTrackIdInfoMap trackId

def setVideoTrackInfo (m : OnMetaData) (trackId : UInt8) (info : TrackInfo) : OnMetaData :=
  { m with videoTrackIdInfoMap := setTrackInfo m.videoTrackIdInfoMap trackId info }

def setAudioTrackInfo (m : OnMetaData) (trackId : UInt8) (info : TrackInfo) : OnMetaData :=
  { m with audioTrackIdInfoMap := setTrackInfo m.audioTrackIdInfoMap trackId info }

end OnMetaData

/-- Which of the two maps. -/
inductive TrackMap where
  | video
  | audio
  deriving DecidableEq, Repr

/-- One call of `set_video_track_info` or `set_audio_track_info`. -/
structure TrackCall where
  map : TrackMap
  trackId : UInt8
  info : TrackInfo

namespace OnMetaData

def apply (m : OnMetaData) (c : TrackCall) : OnMetaData :=
  match c.map with
  | .video => m.setVideoTrackInfo c.trackId c.info
  | .audio => m.setAudioTrackInfo c.trackId c.info

def trackInfoOf (m : OnMetaData) : TrackMap → UInt8 → Except Error (Option TrackInfo)
  | .video => m.videoTrackInfo
  | .audio => m.audioTrackInfo

/-- The entries of a map, those of the peer included. -/
def trackEntries (m : OnMetaData) : TrackMap → List (String × Amf0Value)
  | .video => trackMapPairs m.videoTrackIdInfoMap
  | .audio => trackMapPairs m.audioTrackIdInfoMap

end OnMetaData

/-- Two ids are not written alike. -/
lemma toString_trackId_inj {a b : UInt8} : toString a = toString b ↔ a = b := by
  refine ⟨fun h => ?_, congrArg toString⟩
  have hdigits : Nat.toDigits 10 a.toNat = Nat.toDigits 10 b.toNat := by
    rw [← Nat.toList_repr, ← Nat.toList_repr]
    exact congrArg String.toList h
  have hback := congrArg (Nat.ofDigitChars 10 · 0) hdigits
  simp only [Nat.ofDigitChars_toDigits (by omega : 1 < 10) (le_refl 10)] at hback
  exact UInt8.toNat_inj.mp hback

/-- A map that is set has its entries updated. -/
lemma trackMapPairs_setTrackInfo (map : Option Amf0Value) (trackId : UInt8) (info : TrackInfo) :
    trackMapPairs (setTrackInfo map trackId info)
      = KeyedRow.upsert (toString trackId) info.toAmf0 (trackMapPairs map) := by
  rcases map with _ | v
  · rfl
  · cases v <;> rfl

/-- **One entry**: after a call, the id of the call has its info, and every other id what it had. -/
lemma trackInfo_setTrackInfo {info : TrackInfo}
    (hinfo : ∀ p ∈ info.extra, p.1 ∉ TrackInfo.schema.names ∨ p.2.asF64 = none)
    (map : Option Amf0Value) (trackId id : UInt8) :
    trackInfo (setTrackInfo map trackId info) id
      = if trackId = id then .ok (some info) else trackInfo map id := by
  rw [trackInfo, trackMapPairs_setTrackInfo, KeyedRow.find?_upsert]
  by_cases h : trackId = id
  · rw [if_pos h, if_pos (congrArg toString h)]
    exact congrArg (Except.map some) (TrackInfo.fromAmf0_toAmf0_info hinfo)
  · rw [if_neg h, if_neg fun heq => h (toString_trackId_inj.mp heq)]
    rfl

namespace OnMetaData

/-- What a call does to the entry of an id. -/
lemma trackInfoOf_apply {c : TrackCall}
    (hinfo : ∀ p ∈ c.info.extra, p.1 ∉ TrackInfo.schema.names ∨ p.2.asF64 = none) (m : OnMetaData)
    (map : TrackMap) (id : UInt8) :
    (m.apply c).trackInfoOf map id
      = if c.map = map ∧ c.trackId = id then .ok (some c.info) else m.trackInfoOf map id := by
  obtain ⟨which, trackId, info⟩ := c
  have hset := fun raw => trackInfo_setTrackInfo hinfo raw trackId id
  cases which with
  | video =>
      cases map with
      | video =>
          show trackInfo (setTrackInfo m.videoTrackIdInfoMap trackId info) id = _
          rw [hset]
          simp [trackInfoOf, videoTrackInfo]
      | audio => simp [apply, trackInfoOf, setVideoTrackInfo, audioTrackInfo]
  | audio =>
      cases map with
      | video => simp [apply, trackInfoOf, setAudioTrackInfo, videoTrackInfo]
      | audio =>
          show trackInfo (setTrackInfo m.audioTrackIdInfoMap trackId info) id = _
          rw [hset]
          simp [trackInfoOf, audioTrackInfo]

/-- What a call does to the entries of other keys. -/
lemma filter_apply (m : OnMetaData) (c : TrackCall) {map : TrackMap} {q : String → Bool}
    (hq : c.map = map → q (toString c.trackId) = false) :
    ((m.apply c).trackEntries map).filter (fun e => q e.1)
      = (m.trackEntries map).filter fun e => q e.1 := by
  obtain ⟨which, trackId, info⟩ := c
  cases which with
  | video =>
      cases map with
      | video =>
          show (trackMapPairs (setTrackInfo m.videoTrackIdInfoMap trackId info)).filter _ = _
          rw [trackMapPairs_setTrackInfo, KeyedRow.filter_upsert (hq rfl)]
          rfl
      | audio => rfl
  | audio =>
      cases map with
      | video => rfl
      | audio =>
          show (trackMapPairs (setTrackInfo m.audioTrackIdInfoMap trackId info)).filter _ = _
          rw [trackMapPairs_setTrackInfo, KeyedRow.filter_upsert (hq rfl)]
          rfl

/-- Calls leave the entries of the keys that they do not set. -/
lemma filter_foldl_apply {map : TrackMap} {q : String → Bool} {calls : List TrackCall}
    (hq : ∀ c ∈ calls, c.map = map → q (toString c.trackId) = false) (m : OnMetaData) :
    ((calls.foldl apply m).trackEntries map).filter (fun e => q e.1)
      = (m.trackEntries map).filter fun e => q e.1 := by
  induction calls generalizing m with
  | nil => rfl
  | cons c calls ih =>
      rw [List.foldl_cons, ih fun c' hc' => hq c' (List.mem_cons_of_mem _ hc')]
      exact m.filter_apply c (hq c List.mem_cons_self)

/-- The last call that sets an id decides what is found for it. -/
lemma trackInfoOf_foldl_apply {calls : List TrackCall}
    (hinfo : ∀ c ∈ calls, ∀ p ∈ c.info.extra, p.1 ∉ TrackInfo.schema.names ∨ p.2.asF64 = none)
    (m : OnMetaData) (map : TrackMap) (id : UInt8) :
    (calls.foldl apply m).trackInfoOf map id
      = match calls.reverse.find? fun c => c.map = map ∧ c.trackId = id with
        | some c => .ok (some c.info)
        | none => m.trackInfoOf map id := by
  induction calls using List.reverseRecOn with
  | nil => rfl
  | append_singleton calls c ih =>
      have hlast := trackInfoOf_apply (hinfo c (by simp)) (calls.foldl apply m) map id
      rw [List.foldl_append, List.foldl_cons, List.foldl_nil, hlast, List.reverse_append,
        List.reverse_singleton, List.singleton_append, List.find?_cons,
        ih fun c' hc' => hinfo c' (List.mem_append_left _ hc')]
      by_cases h : c.map = map ∧ c.trackId = id <;> simp [h]

/-- **A keyed store**: after any calls, each id of each map has the info that was last set for it, or
what the map gave before if there was none, and the entries of the keys that were not set are as they
were and in their order; and an info is read as it was written. -/
theorem trackInfo_foldl_apply :
    (∀ (m : OnMetaData) (calls : List TrackCall),
      (∀ c ∈ calls, ∀ p ∈ c.info.extra, p.1 ∉ TrackInfo.schema.names ∨ p.2.asF64 = none) →
      (∀ map id, (calls.foldl apply m).trackInfoOf map id
        = match calls.reverse.find? fun c => c.map = map ∧ c.trackId = id with
          | some c => .ok (some c.info)
          | none => m.trackInfoOf map id) ∧
      ∀ map, ((calls.foldl apply m).trackEntries map).filter
          (fun e => ∀ c ∈ calls, c.map = map → e.1 ≠ toString c.trackId)
        = (m.trackEntries map).filter fun e => ∀ c ∈ calls, c.map = map → e.1 ≠ toString c.trackId) ∧
    ∀ info : TrackInfo, (∀ p ∈ info.extra, p.1 ∉ TrackInfo.schema.names ∨ p.2.asF64 = none) →
      TrackInfo.fromAmf0 info.toAmf0 = .ok info := by
  refine ⟨fun m calls hinfo => ⟨trackInfoOf_foldl_apply hinfo m, fun map => ?_⟩,
    fun info => TrackInfo.fromAmf0_toAmf0_info⟩
  refine filter_foldl_apply (q := fun k => decide (∀ c ∈ calls, c.map = map → k ≠ toString c.trackId))
    (fun c hc hmap => ?_) m
  exact decide_eq_false fun hall => hall c hc hmap rfl

/-- Two calls for one id, in a map with a key that is no id and an entry that is no object. -/
theorem trackInfo_foldl_apply_two :
    let m : OnMetaData := { OnMetaData.default with
      videoTrackIdInfoMap := some (.ecmaArray [("codec", .null), ("1", .null), ("2", .null)]) }
    let small : TrackInfo := { TrackInfo.default with width := some (.ofNat 640) }
    let large : TrackInfo := { TrackInfo.default with
      width := some (.ofNat 1280), extra := [("width", .string "wide")] }
    let after := [TrackCall.mk .video 1 small, ⟨.audio, 1, small⟩, ⟨.video, 1, large⟩].foldl apply m
    after.videoTrackInfo 1 = .ok (some large) ∧ after.audioTrackInfo 1 = .ok (some small) ∧
      after.videoTrackInfo 2 = m.videoTrackInfo 2 ∧
      TrackInfo.fromAmf0 large.toAmf0 = .ok large := by
  intro m small large after
  have hsmall : ∀ p ∈ small.extra, p.1 ∉ TrackInfo.schema.names ∨ p.2.asF64 = none := nofun
  have hlarge : ∀ p ∈ large.extra, p.1 ∉ TrackInfo.schema.names ∨ p.2.asF64 = none := by
    intro p hp
    rw [List.mem_singleton.mp hp]
    exact .inr rfl
  obtain ⟨hstore, hback⟩ := trackInfo_foldl_apply
  obtain ⟨hfound, -⟩ := hstore m [⟨.video, 1, small⟩, ⟨.audio, 1, small⟩, ⟨.video, 1, large⟩] (by
    intro c hc
    simp only [List.mem_cons, List.not_mem_nil, or_false] at hc
    rcases hc with rfl | rfl | rfl
    · exact hsmall
    · exact hsmall
    · exact hlarge)
  exact ⟨hfound .video 1, hfound .audio 1, hfound .video 2, hback large hlarge⟩

end OnMetaData

end Rtmp.Flv
