import Rtmp.Adapter.Packet
import Rtmp.Session.Player
import Rtmp.Session.Publish

/-!
A session or a player as a source of packets.

* `MediaSource`: what the bridge asks of a session or a player, `RtmpSession.media` and
  `RtmpPlayer.media`;
* `Bridge.convert`: the packets of one event;
* `probeSource`: the loop that looks at the first events and buffers their packets;
* `steadyNext`: the loop that asks for events until one has a packet;
* `PacketSource.nextPacket`: what was buffered first, then the loop;
* `rtmpToCoreErr`: the pipeline's errors.
-/

namespace Rtmp

open Flv

/-! ### The two kinds of source -/

/-- What a session and a player give the bridge. -/
inductive MediaSourceEvent where
  | audio (timestamp : UInt32) (tag : AudioTag)
  | video (timestamp : UInt32) (tag : VideoTag)
  | metadata (value : Amf0Value)
  /-- An event that is no media. -/
  | skip
  /-- The clean end of the stream. -/
  | finish
  deriving Repr

def MediaSourceEvent.isAudio : MediaSourceEvent → Bool
  | audio _ _ => true
  | _ => false

def MediaSourceEvent.isVideo : MediaSourceEvent → Bool
  | video _ _ => true
  | _ => false

def MediaSourceEvent.isFinish : MediaSourceEvent → Bool
  | finish => true
  | _ => false

lemma MediaSourceEvent.isFinish_iff {ev : MediaSourceEvent} : ev.isFinish ↔ ev = .finish := by
  cases ev <;> simp [isFinish]

def StreamPacket.toMedia : StreamPacket → MediaSourceEvent
  | audio timestamp tag => .audio timestamp tag
  | video timestamp tag => .video timestamp tag
  | metadata value => .metadata value
  | _ => .skip

def PlayerPacket.toMedia : PlayerPacket → MediaSourceEvent
  | audio timestamp tag => .audio timestamp tag
  | video timestamp tag => .video timestamp tag
  | metadata value => .metadata value
  | _ => .skip

/-- Something that can be asked for media events; every event but the last takes it nearer to its
end. -/
structure MediaSource (S : Type) where
  nextMedia : S → Except Error MediaSourceEvent × S
  Nearer : S → S → Prop
  wellFounded : WellFounded Nearer
  nearer : ∀ {s s' ev}, nextMedia s = (.ok ev, s') → ev ≠ .finish → Nearer s' s

namespace Dispatcher

variable {τ α : Type} (d : Dispatcher τ α)

/-- A connection as a source of media: its items as `toMedia` sees them. -/
def media (toMedia : α → MediaSourceEvent) : MediaSource (Session τ) where
  nextMedia s :=
    match d.next s with
    | (.ok (some item), s') => (.ok (toMedia item), s')
    | (.ok none, s') => (.ok .finish, s')
    | (.error e, s') => (.error e, s')
  Nearer := Shrinks
  wellFounded := wellFounded_shrinks
  nearer := by
    intro s s' ev h hev
    rcases hnext : d.next s with ⟨_ | _ | item, t⟩
    · simp only [hnext] at h
      cases h
    · simp only [hnext] at h
      cases h
      exact absurd rfl hev
    · simp only [hnext] at h
      cases h
      exact d.next_shrinks hnext

/-- A round with an item gives its event. -/
lemma nextMedia_item {toMedia : α → MediaSourceEvent} {s s' : Session τ} {item : α}
    (h : d.round s = (some (.ok (some item)), s')) :
    (d.media toMedia).nextMedia s = (.ok (toMedia item), s') := by
  simp only [media, d.next_of_some h]

/-- A round at the end of the stream gives the end. -/
lemma nextMedia_finish {toMedia : α → MediaSourceEvent} {s s' : Session τ}
    (h : d.round s = (some (.ok none), s')) :
    (d.media toMedia).nextMedia s = (.ok .finish, s') := by
  simp only [media, d.next_of_some h]

end Dispatcher

def RtmpSession.media : MediaSource RtmpSession :=
  RtmpSession.dispatcher.media StreamPacket.toMedia

def RtmpPlayer.media : MediaSource RtmpPlayer :=
  RtmpPlayer.dispatcher.media PlayerPacket.toMedia

/-! ### Events -/

/-- The scalar properties of a metadata object, as text. -/
def flattenMetadata (value : Amf0Value) : List (String × String) :=
  let pairs := match value with
    | .object ps => ps
    | .ecmaArray ps => ps
    | _ => []
  pairs.filterMap fun p =>
    match p.2 with
    | .number n => some (p.1, n.display)
    | .boolean b => some (p.1, toString b)
    | .string s => some (p.1, s)
    | _ => none

/-- The next timestamp on the bridge's timeline. -/
def Bridge.unwrapMs (timestamp : UInt32) : Eff Error Bridge Int64 :=
  Eff.modifyGet fun b => ((b.ts.unwrapMs timestamp).1, { b with ts := (b.ts.unwrapMs timestamp).2 })

/-- The packets of an event, and what the bridge keeps of it. -/
def Bridge.convert : MediaSourceEvent → Eff Error Bridge (List Packet)
  | .audio timestamp tag => do
      let tsMs ← unwrapMs timestamp
      audioPackets tsMs tag
  | .video timestamp tag => do
      let tsMs ← unwrapMs timestamp
      videoPackets tsMs tag
  | .metadata value => do
      Eff.modify fun b => { b with metadata := b.metadata ++ flattenMetadata value }
      pure []
  | .skip | .finish => pure []

/-- The bridge once it has seen the timestamp. -/
def Bridge.at (b : Bridge) (timestamp : UInt32) : Bridge :=
  { b with ts := (b.ts.unwrapMs timestamp).2 }

lemma Bridge.run_convert_video (b : Bridge) (timestamp : UInt32) (tag : VideoTag) :
    (convert (.video timestamp tag)).run b
      = (mediaPackets videoMedia (b.ts.unwrapMs timestamp).1 tag).run (b.at timestamp) := rfl

lemma Bridge.run_convert_audio (b : Bridge) (timestamp : UInt32) (tag : AudioTag) :
    (convert (.audio timestamp tag)).run b
      = (mediaPackets audioMedia (b.ts.unwrapMs timestamp).1 tag).run (b.at timestamp) := rfl

/-! ### Probing -/

structure BufferedPacket where
  packet : Packet
  isAudio : Bool
  deriving DecidableEq, Repr

/-- What probing found, and the packets of it that are still to be delivered. -/
structure ProbeState extends Bridge where
  buffered : List BufferedPacket
  ended : Bool

/-- The packets of an event go to the end of the buffer. -/
def ProbeState.keep (state : ProbeState) (ev : MediaSourceEvent) (packets : List Packet)
    (b : Bridge) : ProbeState :=
  { state with
    toBridge := b
    buffered := state.buffered ++ packets.map fun p => ⟨p, ev.isAudio⟩ }

def probeLimit : ℕ := 32

section

variable {S : Type} (src : MediaSource S)

/-- Look at events until both kinds were seen, for at most `rounds` rounds; a timeout ends the
search, the end of the stream is noted. -/
def probeLoop : (rounds : ℕ) → (haveAudio haveVideo : Bool) → ProbeState → S →
    Except Error ProbeState × S
  | 0, _, _, state, s => (.ok state, s)
  | rounds + 1, haveAudio, haveVideo, state, s =>
      if haveAudio && haveVideo then (.ok state, s)
      else
        match src.nextMedia s with
        | (.error (.io kind), s') =>
            if kind.isTimeout then (.ok state, s') else (.error (.io kind), s')
        | (.error e, s') => (.error e, s')
        | (.ok ev, s') =>
            if ev.isFinish then (.ok { state with ended := true }, s')
            else
              match (Bridge.convert ev).run state.toBridge with
              | (.error e, _) => (.error e, s')
              | (.ok packets, b) =>
                  probeLoop rounds (haveAudio || ev.isAudio) (haveVideo || ev.isVideo)
                    (state.keep ev packets b) s'

/-- Probe: the streams found are put in order at the end. -/
def probeSource (s : S) : Except Error ProbeState × S :=
  match probeLoop src probeLimit false false ⟨.new, [], false⟩ s with
  | (.ok state, s') => (.ok { state with streams := sortStreams state.streams }, s')
  | (.error e, s') => (.error e, s')

/-! ### The source -/

/-- The failures a pipeline tells apart. -/
inductive CoreError where
  | io (kind : IoErrorKind)
  | eof
  | invalidData (text : String)
  | other (text : String)
  deriving DecidableEq, Repr

def rtmpToCoreErr : Error → CoreError
  | .io kind => .io kind
  | .unexpectedEof => .eof
  | .timeout => .other "rtmp: timeout"
  | .rejected r => .other ("rtmp: rejected: " ++ r)
  | .protocolViolation m => .invalidData ("rtmp protocol: " ++ m)
  | .invalidAmf0 m => .invalidData ("rtmp amf0: " ++ m)
  | .invalidChunk m => .invalidData ("rtmp chunk: " ++ m)
  | .invalidCommand m => .invalidData ("rtmp command: " ++ m)
  | .other m => .other ("rtmp: " ++ m)

/-- A session or a player, wrapped. -/
structure PacketSource (S : Type) extends Bridge where
  session : S
  /-- The packets of the probed events that are still to be delivered. -/
  buffered : List BufferedPacket
  /-- Whether the stream is over. -/
  ended : Bool
  /-- The packets of the last message that are still to be delivered. -/
  pending : List Packet

namespace PacketSource

/-- Without probing. -/
def fromSession (session : S) : PacketSource S where
  toBridge := .new
  session := session
  buffered := []
  ended := false
  pending := []

/-- With the first events probed. -/
def fromSessionWithProbe (session : S) : Except Error (PacketSource S) :=
  match probeSource src session with
  | (.ok state, session) =>
      .ok
        { toBridge := state.toBridge, session, buffered := state.buffered, ended := state.ended
          pending := [] }
  | (.error e, _) => .error e

/-- Ask for events until one has a packet; the rest of its packets is kept. -/
def steadyNext (a : PacketSource S) : Except CoreError Packet × PacketSource S :=
  match _h : src.nextMedia a.session with
  | (.error e, s') => (.error (rtmpToCoreErr e), { a with session := s' })
  | (.ok ev, s') =>
      if _hev : ev.isFinish then (.error .eof, { a with session := s', ended := true })
      else
        match (Bridge.convert ev).run a.toBridge with
        | (.error e, b) => (.error (rtmpToCoreErr e), { a with session := s', toBridge := b })
        | (.ok [], b) => steadyNext { a with session := s', toBridge := b }
        | (.ok (first :: rest), b) =>
            (.ok first, { a with session := s', toBridge := b, pending := a.pending ++ rest })
termination_by src.wellFounded.wrap a.session
decreasing_by exact src.nearer _h fun heq => _hev (by rw [heq]; rfl)

/-- **The loop, unrolled once.** -/
theorem steadyNext_eq (a : PacketSource S) :
    steadyNext src a = match src.nextMedia a.session with
      | (.error e, s') => (.error (rtmpToCoreErr e), { a with session := s' })
      | (.ok ev, s') =>
          if ev.isFinish then (.error .eof, { a with session := s', ended := true })
          else
            match (Bridge.convert ev).run a.toBridge with
            | (.error e, b) => (.error (rtmpToCoreErr e), { a with session := s', toBridge := b })
            | (.ok [], b) => steadyNext src { a with session := s', toBridge := b }
            | (.ok (first :: rest), b) =>
                (.ok first, { a with session := s', toBridge := b, pending := a.pending ++ rest }) := by
  rw [steadyNext]
  split
  · rename_i h
    rw [h]
  · rename_i h
    rw [h]
    rfl

/-- The next packet: what is buffered, what is pending, and then the session. -/
def nextPacket (a : PacketSource S) : Except CoreError Packet × PacketSource S :=
  match a.buffered with
  | buf :: rest => (.ok buf.packet, { a with buffered := rest })
  | [] =>
      match a.pending with
      | packet :: rest => (.ok packet, { a with pending := rest })
      | [] => if a.ended then (.error .eof, a) else steadyNext src a

/-- `n` calls in a row, and what they returned. -/
def calls : ℕ → PacketSource S → List (Except CoreError Packet) × PacketSource S
  | 0, a => ([], a)
  | n + 1, a =>
      ((nextPacket src a).1 :: (calls n (nextPacket src a).2).1, (calls n (nextPacket src a).2).2)

end PacketSource

end

/-- A publish session, wrapped. -/
abbrev RtmpPacketSource := PacketSource RtmpSession

/-- A player, wrapped. -/
abbrev RtmpPlayerPacketSource := PacketSource RtmpPlayer

end Rtmp
