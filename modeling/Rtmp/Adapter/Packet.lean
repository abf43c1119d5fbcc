import Rtmp.Flv.Tracks

/-!
The packets a media pipeline is given for the tags of a stream, and the streams they belong to.

* `TimestampUnwrapper`: 32-bit millisecond timestamps on one 64-bit timeline;
* `TrackStreams`: the stream index of each track; `ensureStream`: the streams seen so far;
* `audioToPacketAt`, `videoToPacketAt`: the packet of one tag;
* `audioPackets`, `videoPackets`: the packets of one message, several for a multitrack tag.

The two kinds of media share `MediaKind` and `mediaPackets`.
-/

namespace Rtmp

namespace Flv

/-! ### What the packets take from a tag -/

def modExTypeTimestampOffsetNano : UInt8 := 0

/-- The first three bytes of a nanosecond modifier. -/
def ModEx.timestampOffsetNano (e : ModEx) : Option UInt32 :=
  if e.modExType ≠ modExTypeTimestampOffsetNano ∨ e.data.length < 3 then none
  else some (UInt32.ofNat (Bytes.ofBe (e.data.take 3)))

/-- Addition that stops at the largest number. -/
def saturatingAdd (a b : UInt32) : UInt32 :=
  if a.toNat + b.toNat < 2 ^ 32 then a + b else 0xFFFFFFFF

/-- The nanoseconds of all modifiers of a tag. -/
def offsetNano (modEx : List ModEx) : UInt32 :=
  (modEx.filterMap ModEx.timestampOffsetNano).foldl saturatingAdd 0

def VideoTag.timestampOffsetNano (tag : VideoTag) : UInt32 := offsetNano tag.modEx

def AudioTag.timestampOffsetNano (tag : AudioTag) : UInt32 := offsetNano tag.modEx

def VideoTag.isMultitrack (tag : VideoTag) : Bool := tag.multitrack.isSome

def AudioTag.isMultitrack (tag : AudioTag) : Bool := tag.multitrack.isSome

def videoFrameKeyframe : UInt8 := 1
def videoFrameGeneratedKey : UInt8 := 4

def VideoTag.isKeyframe (tag : VideoTag) : Bool :=
  tag.frameType = videoFrameKeyframe || tag.frameType = videoFrameGeneratedKey

def avcPacketTypeSequenceHeader : UInt8 := 0

def VideoTag.isAvcSequenceHeader (tag : VideoTag) : Bool :=
  tag.codecId = videoCodecAvc && tag.avcPacketType = some avcPacketTypeSequenceHeader

def exPacketTypeSequenceStart : UInt8 := 0

def VideoTag.isExSequenceHeader (tag : VideoTag) : Bool :=
  tag.fourcc.isSome && tag.exPacketType = some exPacketTypeSequenceStart

def audioPacketTypeSequenceStart : UInt8 := 0
def audioPacketTypeSequenceEnd : UInt8 := 2

def aacPacketTypeSequenceHeader : UInt8 := 0

end Flv

open Flv

/-! ### Packets -/

def audioStreamIndex : UInt32 := 0
def videoStreamIndex : UInt32 := 1

structure TimeBase where
  num : ℕ
  den : ℕ
  deriving DecidableEq, Repr

/-- Nanoseconds. -/
def rtmpTimeBase : TimeBase := ⟨1, 1000000000⟩

def rtmpMsToNs : Int64 := 1000000

structure PacketFlags where
  keyframe : Bool
  header : Bool
  deriving DecidableEq, Repr

structure Packet where
  streamIndex : UInt32
  timeBase : TimeBase
  pts : Option Int64
  dts : Option Int64
  duration : Option Int64
  flags : PacketFlags
  data : List UInt8
  deriving DecidableEq, Repr

/-- The last timestamp and the time it stands for. -/
structure TimestampUnwrapper where
  last : Option (UInt32 × Int64)
  deriving DecidableEq, Repr

def TimestampUnwrapper.new : TimestampUnwrapper := ⟨none⟩

/-- The time of the next timestamp: the difference to the last one, taken as signed, is the step. -/
def TimestampUnwrapper.unwrapMs (ts : TimestampUnwrapper) (raw : UInt32) :
    Int64 × TimestampUnwrapper :=
  let ext := match ts.last with
    | none => raw.toUInt64.toInt64
    | some (prevRaw, prevExt) => prevExt + (raw - prevRaw).toInt32.toInt64
  (ext, ⟨some (raw, ext)⟩)

/-- The packet of an audio tag; `extraNano` is what the whole message adds to its time. -/
def audioToPacketAt (timestampMs : Int64) (tag : AudioTag) (streamIndex : UInt32)
    (extraNano : Int64) : Packet :=
  let presentation := timestampMs * rtmpMsToNs
    + (tag.timestampOffsetNano.toUInt64.toInt64 + extraNano)
  let (data, header) :=
    if tag.audioFourcc.isSome then
      (tag.body, decide (tag.exPacketType = some audioPacketTypeSequenceStart
        ∨ tag.exPacketType = some audioPacketTypeSequenceEnd))
    else
      ((if tag.soundFormat = audioFormatAac then [tag.aacPacketType.getD aacPacketTypeRaw] else [])
        ++ tag.body,
        decide (tag.soundFormat = audioFormatAac
          ∧ tag.aacPacketType = some aacPacketTypeSequenceHeader))
  { streamIndex, timeBase := rtmpTimeBase, pts := some presentation, dts := some presentation
    duration := none, flags := ⟨false, header⟩, data }

/-- The packet of a video tag; only the presentation time has the offsets. -/
def videoToPacketAt (timestampMs : Int64) (tag : VideoTag) (streamIndex : UInt32)
    (extraNano : Int64) : Packet :=
  let dts := timestampMs * rtmpMsToNs
  let hasCts : Bool := tag.codecId = videoCodecAvc || (tag.fourcc.isSome && tag.compositionTime ≠ 0)
  let cts := if hasCts then tag.compositionTime.toInt64 * rtmpMsToNs else 0
  let pts := dts + cts + (tag.timestampOffsetNano.toUInt64.toInt64 + extraNano)
  { streamIndex, timeBase := rtmpTimeBase, pts := some pts, dts := some dts, duration := none
    flags := ⟨!tag.isExMetadata && tag.isKeyframe,
      tag.isAvcSequenceHeader || tag.isExSequenceHeader || tag.isExMetadata⟩
    data := tag.body }

/-! ### Streams -/

inductive MediaType where
  | audio
  | video
  deriving DecidableEq, Repr

structure CodecParameters where
  mediaType : MediaType
  codecId : String
  extradata : List UInt8
  sampleRate : Option UInt32
  channels : Option UInt16
  deriving DecidableEq, Repr

/-- The codec of a legacy sound format. -/
def audioCodecId (soundFormat : UInt8) : String :=
  match soundFormat with
  | 0 => "pcm_s16le"
  | 1 => "adpcm_swf"
  | 2 => "mp3"
  | 3 => "pcm_u8"
  | 4 => "nellymoser"
  | 5 => "nellymoser"
  | 6 => "nellymoser"
  | 7 => "pcm_alaw"
  | 8 => "pcm_mulaw"
  | 10 => "aac"
  | 11 => "speex"
  | _ => "unknown"

/-- The codec of a FourCC: `Opus`, `fLaC`, `ac-3`, `ec-3`, `.mp3` and `mp4a` are known. -/
def audioFourccCodecId (fourcc : FourCc) : String :=
  if fourcc = ⟨0x4F, 0x70, 0x75, 0x73⟩ then "opus"
  else if fourcc = ⟨0x66, 0x4C, 0x61, 0x43⟩ then "flac"
  else if fourcc = ⟨0x61, 0x63, 0x2D, 0x33⟩ then "ac3"
  else if fourcc = ⟨0x65, 0x63, 0x2D, 0x33⟩ then "eac3"
  else if fourcc = ⟨0x2E, 0x6D, 0x70, 0x33⟩ then "mp3"
  else if fourcc = ⟨0x6D, 0x70, 0x34, 0x61⟩ then "aac"
  else "unknown"

def audioCodecIdForTag (tag : AudioTag) : String :=
  match tag.audioFourcc with
  | some fourcc => audioFourccCodecId fourcc
  | none => audioCodecId tag.soundFormat

/-- The codec of a legacy codec id. -/
def videoCodecId (codecId : UInt8) : String :=
  match codecId with
  | 2 => "h263"
  | 3 => "flashsv"
  | 4 => "vp6f"
  | 5 => "vp6a"
  | 6 => "flashsv2"
  | 7 => "h264"
  | _ => "unknown"

/-- The codec of a FourCC: `av01`, `vp09`, `hvc1`, `vp08`, `avc1` and `vvc1` are known. -/
def videoFourccCodecId (fourcc : FourCc) : String :=
  if fourcc = ⟨0x61, 0x76, 0x30, 0x31⟩ then "av1"
  else if fourcc = ⟨0x76, 0x70, 0x30, 0x39⟩ then "vp9"
  else if fourcc = fourccHevc then "hevc"
  else if fourcc = ⟨0x76, 0x70, 0x30, 0x38⟩ then "vp8"
  else if fourcc = fourccAvc then "h264"
  else if fourcc = fourccVvc then "vvc"
  else "unknown"

def videoCodecIdForTag (tag : VideoTag) : String :=
  match tag.fourcc with
  | some fourcc => videoFourccCodecId fourcc
  | none => videoCodecId tag.codecId

/-- The sampling rate of a legacy tag. -/
def soundRateHz (soundRate : UInt8) : UInt32 :=
  match soundRate with
  | 0 => 5512
  | 1 => 11025
  | 2 => 22050
  | _ => 44100

/-- What the first tag of an audio stream says of its codec; an AAC tag says it in its body. -/
def audioCodecParams (tag : AudioTag) : CodecParameters :=
  let p : CodecParameters := ⟨.audio, audioCodecIdForTag tag, [], none, none⟩
  if tag.audioFourcc.isSome then
    if tag.exPacketType = some audioPacketTypeSequenceStart then { p with extradata := tag.body }
    else p
  else if tag.soundFormat ≠ audioFormatAac then
    { p with
      sampleRate := some (soundRateHz tag.soundRate)
      channels := some (if tag.stereo then 2 else 1) }
  else if tag.aacPacketType = some aacPacketTypeSequenceHeader then { p with extradata := tag.body }
  else p

def videoCodecParams (tag : VideoTag) : CodecParameters where
  mediaType := .video
  codecId := videoCodecIdForTag tag
  extradata := if tag.isAvcSequenceHeader || tag.isExSequenceHeader then tag.body else []
  sampleRate := none
  channels := none

structure StreamInfo where
  index : UInt32
  timeBase : TimeBase
  duration : Option Int64
  startTime : Option Int64
  params : CodecParameters
  deriving DecidableEq, Repr

/-- The streams in the order of their indices. -/
def sortStreams (streams : List StreamInfo) : List StreamInfo :=
  streams.mergeSort fun a b => a.index ≤ b.index

/-- Register a stream, unless there is one of its index. -/
def ensureStream (streams : List StreamInfo) (index : UInt32) (params : CodecParameters) :
    List StreamInfo :=
  if streams.all fun s => s.index ≠ index then
    sortStreams (streams ++ [⟨index, rtmpTimeBase, none, none, params⟩])
  else streams

/-- The stream index of each track that is not a default one, with its kind and its track id. -/
structure TrackStreams where
  extra : List (Bool × UInt8 × UInt32)
  deriving DecidableEq, Repr

/-- The stream index of a track that has one. -/
def TrackStreams.lookup (isAudio : Bool) (trackId : UInt8) (tracks : TrackStreams) : Option UInt32 :=
  if trackId = 0 then some (if isAudio then audioStreamIndex else videoStreamIndex)
  else (tracks.extra.find? fun t => t.1 = isAudio ∧ t.2.1 = trackId).map fun t => t.2.2

/-- The stream index of a track, which may be a new one. -/
def TrackStreams.index (isAudio : Bool) (trackId : UInt8) (tracks : TrackStreams) :
    UInt32 × TrackStreams :=
  match tracks.lookup isAudio trackId with
  | some idx => (idx, tracks)
  | none =>
      let idx := 2 + UInt32.ofNat tracks.extra.length
      (idx, ⟨tracks.extra ++ [(isAudio, trackId, idx)]⟩)

/-! ### Messages -/

/-- What the bridge keeps of the tags and the metadata it has seen. -/
structure Bridge where
  streams : List StreamInfo
  metadata : List (String × String)
  ts : TimestampUnwrapper
  tracks : TrackStreams
  deriving DecidableEq, Repr

def Bridge.new : Bridge := ⟨[], [], .new, ⟨[]⟩⟩

/-- A tag kind as the bridge sees it. -/
structure MediaKind (T : Type) where
  isAudio : Bool
  isMultitrack : T → Bool
  timestampOffsetNano : T → UInt32
  demuxTracks : T → Except Error (List (UInt8 × T))
  codecParams : T → CodecParameters
  toPacketAt : Int64 → T → UInt32 → Int64 → Packet

section Media

variable {T : Type} (k : MediaKind T)

/-- The packet of one track, on a stream that is registered with it if need be. -/
def trackPacket (tsMs extraNano : Int64) (trackId : UInt8) (tag : T) (b : Bridge) : Packet × Bridge :=
  let (index, tracks) := b.tracks.index k.isAudio trackId
  (k.toPacketAt tsMs tag index extraNano,
    { b with tracks, streams := ensureStream b.streams index (k.codecParams tag) })

/-- The packets of several tracks. -/
def trackPackets (tsMs extraNano : Int64) : List (UInt8 × T) → Bridge → List Packet × Bridge
  | [], b => ([], b)
  | (trackId, tag) :: tracks, b =>
      let (packet, b) := trackPacket k tsMs extraNano trackId tag b
      let (packets, b) := trackPackets tsMs extraNano tracks b
      (packet :: packets, b)

/-- The packets of one message: one, or one for each track. -/
def mediaPackets (tsMs : Int64) (tag : T) : Eff Error Bridge (List Packet) :=
  if k.isMultitrack tag then do
    let demuxed ← Eff.ofExcept (k.demuxTracks tag)
    Eff.modifyGet (trackPackets k tsMs (k.timestampOffsetNano tag).toUInt64.toInt64 demuxed)
  else Eff.modifyGet (trackPackets k tsMs 0 [(0, tag)])

end Media

def audioMedia : MediaKind AudioTag where
  isAudio := true
  isMultitrack := AudioTag.isMultitrack
  timestampOffsetNano := AudioTag.timestampOffsetNano
  demuxTracks := AudioTag.demuxTracks
  codecParams := audioCodecParams
  toPacketAt := audioToPacketAt

def videoMedia : MediaKind VideoTag where
  isAudio := false
  isMultitrack := VideoTag.isMultitrack
  timestampOffsetNano := VideoTag.timestampOffsetNano
  demuxTracks := VideoTag.demuxTracks
  codecParams := videoCodecParams
  toPacketAt := videoToPacketAt

def audioPackets (tsMs : Int64) (tag : AudioTag) : Eff Error Bridge (List Packet) :=
  mediaPackets audioMedia tsMs tag

def videoPackets (tsMs : Int64) (tag : VideoTag) : Eff Error Bridge (List Packet) :=
  mediaPackets videoMedia tsMs tag

end Rtmp
