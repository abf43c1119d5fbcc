import Rtmp.Chunk.Message
import Rtmp.Lib.Bytes

/-!
The messages the protocol itself is steered with: type ids, the chunk streams they ride on, the
protocol-control bodies and the user-control events.

* `PeerBandwidthLimiter.apply`: the limit-type state machine of Set Peer Bandwidth;
* `UserControlEvent.parse` and `UserControlEvent.toMessage`: the user-control events, inverse to
  each other (`UserControlEvent.parse_built`).
-/

namespace Rtmp

/-! ### Type ids -/

def msgSetChunkSize : UInt8 := 1
def msgAbort : UInt8 := 2
def msgAck : UInt8 := 3
def msgUserControl : UInt8 := 4
def msgWindowAckSize : UInt8 := 5
def msgSetPeerBandwidth : UInt8 := 6
def msgAudio : UInt8 := 8
def msgVideo : UInt8 := 9
def msgDataAmf3 : UInt8 := 15
def msgSharedObjectAmf3 : UInt8 := 16
def msgCommandAmf3 : UInt8 := 17
def msgDataAmf0 : UInt8 := 18
def msgSharedObjectAmf0 : UInt8 := 19
def msgCommandAmf0 : UInt8 := 20
def msgAggregate : UInt8 := 22

/-! ### Chunk stream ids -/

def csidProtocolControl : UInt32 := 2
def csidCommand : UInt32 := 3
def csidAudio : UInt32 := 4
def csidVideo : UInt32 := 5
def csidData : UInt32 := 6

/-! ### Protocol control -/

/-- A message of the protocol itself: message stream 0, timestamp 0. -/
def controlMessage (msgTypeId : UInt8) (payload : List UInt8) : Message where
  msgTypeId := msgTypeId
  msgStreamId := 0
  timestamp := 0
  payload := payload

/-- Bit 31 of a chunk size is reserved and masked off. -/
def buildSetChunkSize (size : UInt32) : Message :=
  controlMessage msgSetChunkSize (Bytes.toBe 4 (size &&& 0x7FFFFFFF).toNat)

def buildAbort (chunkStreamId : UInt32) : Message :=
  controlMessage msgAbort (Bytes.toBe 4 chunkStreamId.toNat)

def buildAck (bytesReceived : UInt32) : Message :=
  controlMessage msgAck (Bytes.toBe 4 bytesReceived.toNat)

def buildWindowAckSize (size : UInt32) : Message :=
  controlMessage msgWindowAckSize (Bytes.toBe 4 size.toNat)

def buildSetPeerBandwidth (size : UInt32) (limitType : UInt8) : Message :=
  controlMessage msgSetPeerBandwidth (Bytes.toBe 4 size.toNat ++ [limitType])

/-- The first four bytes as a big-endian number. -/
def u32OfBe (bs : List UInt8) : UInt32 := UInt32.ofNat (Bytes.ofBe (bs.take 4))

lemma u32OfBe_toBe_append (v : UInt32) (rest : List UInt8) :
    u32OfBe (Bytes.toBe 4 v.toNat ++ rest) = v := by
  rw [u32OfBe, List.take_left' (Bytes.length_toBe 4 _), Bytes.ofBe_toBe v.toNat_lt]
  simp

lemma u32OfBe_toBe (v : UInt32) : u32OfBe (Bytes.toBe 4 v.toNat) = v := by
  have h := u32OfBe_toBe_append v []
  rwa [List.append_nil] at h

/-- The 32-bit body of a protocol-control message; longer bodies are cut. -/
def readU32Be (buf : List UInt8) : Except Error UInt32 :=
  if buf.length < 4 then .error (.protocolViolation "need 4 bytes for u32be")
  else .ok (u32OfBe buf)

lemma readU32Be_toBe (v : UInt32) : readU32Be (Bytes.toBe 4 v.toNat) = .ok v := by
  rw [readU32Be, if_neg (by rw [Bytes.length_toBe]; omega), u32OfBe_toBe]

def peerBandwidthLimitHard : UInt8 := 0
def peerBandwidthLimitSoft : UInt8 := 1
def peerBandwidthLimitDynamic : UInt8 := 2

/-- The window and limit type of a Set Peer Bandwidth body; a missing limit type reads as hard. -/
def parseSetPeerBandwidth (payload : List UInt8) : Except Error (UInt32 × UInt8) :=
  if payload.length < 4 then
    .error (.invalidChunk s!"Set Peer Bandwidth payload too short: {payload.length} bytes")
  else .ok (u32OfBe payload, (payload[4]?).getD peerBandwidthLimitHard)

/-- The window a peer asked for, and whether its last limit was hard. -/
structure PeerBandwidthLimiter where
  window : Option UInt32 := none
  lastWasHard : Bool := false
  deriving DecidableEq, Repr

namespace PeerBandwidthLimiter

/-- A limiter before the first Set Peer Bandwidth. -/
def new : PeerBandwidthLimiter := {}

/-- Take on a window; the answer is the window if it is a change. -/
def adopt (window : UInt32) (l : PeerBandwidthLimiter) : Option UInt32 × PeerBandwidthLimiter :=
  if l.window = some window then (none, l) else (some window, { l with window := some window })

/-- One Set Peer Bandwidth: hard limits are adopted, soft ones if they are tighter, dynamic ones
right after a hard one; other limit types are ignored. -/
def apply (window : UInt32) (limitType : UInt8) (l : PeerBandwidthLimiter) :
    Option UInt32 × PeerBandwidthLimiter :=
  if limitType = peerBandwidthLimitHard then adopt window { l with lastWasHard := true }
  else if limitType = peerBandwidthLimitSoft then
    adopt (l.window.elim window fun cur => min cur window) { l with lastWasHard := false }
  else if limitType = peerBandwidthLimitDynamic then
    if l.lastWasHard then adopt window l else (none, l)
  else (none, l)

end PeerBandwidthLimiter

/-! ### User control -/

/-- The events of a user-control message; `unknown` keeps what it cannot interpret. -/
inductive UserControlEvent where
  | streamBegin (streamId : UInt32)
  | streamEof (streamId : UInt32)
  | streamDry (streamId : UInt32)
  | setBufferLength (streamId bufferMs : UInt32)
  | streamIsRecorded (streamId : UInt32)
  | pingRequest (timestampMs : UInt32)
  | pingResponse (timestampMs : UInt32)
  | unknown (eventType : UInt16) (data : List UInt8)
  deriving DecidableEq, Repr

def usrStreamBegin : UInt16 := 0
def usrStreamEof : UInt16 := 1
def usrStreamDry : UInt16 := 2
def usrSetBufferLength : UInt16 := 3
def usrStreamIsRecorded : UInt16 := 4
def usrPingRequest : UInt16 := 6
def usrPingResponse : UInt16 := 7

/-- A user-control message: the event type and its data. -/
def userControlMessage (eventType : UInt16) (data : List UInt8) : Message :=
  controlMessage msgUserControl (Bytes.toBe 2 eventType.toNat ++ data)

def buildUserControlStreamBegin (streamId : UInt32) : Message :=
  userControlMessage usrStreamBegin (Bytes.toBe 4 streamId.toNat)

def buildUserControlStreamEof (streamId : UInt32) : Message :=
  userControlMessage usrStreamEof (Bytes.toBe 4 streamId.toNat)

def buildUserControlStreamDry (streamId : UInt32) : Message :=
  userControlMessage usrStreamDry (Bytes.toBe 4 streamId.toNat)

def buildUserControlSetBufferLength (streamId bufferMs : UInt32) : Message :=
  userControlMessage usrSetBufferLength
    (Bytes.toBe 4 streamId.toNat ++ Bytes.toBe 4 bufferMs.toNat)

def buildUserControlStreamIsRecorded (streamId : UInt32) : Message :=
  userControlMessage usrStreamIsRecorded (Bytes.toBe 4 streamId.toNat)

def buildUserControlPingRequest (timestampMs : UInt32) : Message :=
  userControlMessage usrPingRequest (Bytes.toBe 4 timestampMs.toNat)

def buildUserControlPingResponse (timestampMs : UInt32) : Message :=
  userControlMessage usrPingResponse (Bytes.toBe 4 timestampMs.toNat)

namespace UserControlEvent

/-- A 32-bit field of the event data, named in the error. -/
def readU32Be (data : List UInt8) (variant : String) : Except Error UInt32 :=
  if data.length < 4 then
    .error (.protocolViolation s!"UserControl {variant}: event data {data.length} < 4 bytes")
  else .ok (u32OfBe data)

/-- The body of a user-control message. -/
def parse (payload : List UInt8) : Except Error UserControlEvent :=
  if payload.length < 2 then
    .error (.protocolViolation "UserControl: payload < 2 bytes (need event type)")
  else
    let eventType := UInt16.ofNat (Bytes.ofBe (payload.take 2))
    let data := payload.drop 2
    if eventType = usrStreamBegin then .streamBegin <$> readU32Be data "StreamBegin"
    else if eventType = usrStreamEof then .streamEof <$> readU32Be data "StreamEOF"
    else if eventType = usrStreamDry then .streamDry <$> readU32Be data "StreamDry"
    else if eventType = usrSetBufferLength then
      if data.length < 8 then
        .error (.protocolViolation
          s!"UserControl SetBufferLength: event data {data.length} < 8 bytes")
      else .ok (.setBufferLength (u32OfBe data) (u32OfBe (data.drop 4)))
    else if eventType = usrStreamIsRecorded then
      .streamIsRecorded <$> readU32Be data "StreamIsRecorded"
    else if eventType = usrPingRequest then .pingRequest <$> readU32Be data "PingRequest"
    else if eventType = usrPingResponse then .pingResponse <$> readU32Be data "PingResponse"
    else .ok (.unknown eventType data)

/-- The message that carries an event. -/
def toMessage : UserControlEvent → Message
  | streamBegin streamId => buildUserControlStreamBegin streamId
  | streamEof streamId => buildUserControlStreamEof streamId
  | streamDry streamId => buildUserControlStreamDry streamId
  | setBufferLength streamId bufferMs => buildUserControlSetBufferLength streamId bufferMs
  | streamIsRecorded streamId => buildUserControlStreamIsRecorded streamId
  | pingRequest timestampMs => buildUserControlPingRequest timestampMs
  | pingResponse timestampMs => buildUserControlPingResponse timestampMs
  | unknown eventType data => userControlMessage eventType data

/-- The event types that have a shape of their own. -/
def specDefined : List UInt16 :=
  [usrStreamBegin, usrStreamEof, usrStreamDry, usrSetBufferLength, usrStreamIsRecorded,
    usrPingRequest, usrPingResponse]

lemma readU32Be_toBe (v : UInt32) (variant : String) :
    readU32Be (Bytes.toBe 4 v.toNat) variant = .ok v := by
  rw [readU32Be, if_neg (by rw [Bytes.length_toBe]; omega), u32OfBe_toBe]

/-- The event type and the event data of a body are what the message was made of. -/
lemma take_drop_payload (eventType : UInt16) (data : List UInt8) :
    let payload := (userControlMessage eventType data).payload
    ¬ payload.length < 2 ∧ UInt16.ofNat (Bytes.ofBe (payload.take 2)) = eventType ∧
      payload.drop 2 = data := by
  have hlen := Bytes.length_toBe 2 eventType.toNat
  have hpayload : (userControlMessage eventType data).payload
      = Bytes.toBe 2 eventType.toNat ++ data := rfl
  refine ⟨?_, ?_, ?_⟩
  · rw [hpayload, List.length_append, hlen]
    omega
  · rw [hpayload, List.take_left' hlen, Bytes.ofBe_toBe eventType.toNat_lt]
    simp
  · rw [hpayload, List.drop_left' hlen]

/-- **Events survive their message**, as long as `unknown` is not used for a known event type. -/
theorem parse_built (ev : UserControlEvent)
    (hknown : ∀ eventType data, ev = .unknown eventType data → eventType ∉ specDefined) :
    parse ev.toMessage.payload = .ok ev := by
  have hparse : ∀ eventType data, ev.toMessage = userControlMessage eventType data →
      ¬ ev.toMessage.payload.length < 2 ∧
        UInt16.ofNat (Bytes.ofBe (ev.toMessage.payload.take 2)) = eventType ∧
        ev.toMessage.payload.drop 2 = data := by
    intro eventType data h
    rw [h]
    exact take_drop_payload eventType data
  cases ev with
  | setBufferLength streamId bufferMs =>
      obtain ⟨hlong, htype, hdata⟩ := hparse _ _ rfl
      have hfour : (Bytes.toBe 4 streamId.toNat ++ Bytes.toBe 4 bufferMs.toNat).drop 4
          = Bytes.toBe 4 bufferMs.toNat := List.drop_left' (Bytes.length_toBe 4 _)
      simp only [parse, if_neg hlong, htype, hdata, hfour, u32OfBe_toBe_append, u32OfBe_toBe]
      rfl
  | unknown eventType data =>
      obtain ⟨hlong, htype, hdata⟩ := hparse _ _ rfl
      have hne := hknown eventType data rfl
      simp only [specDefined, List.mem_cons, List.not_mem_nil, or_false, not_or] at hne
      obtain ⟨h₀, h₁, h₂, h₃, h₄, h₆, h₇⟩ := hne
      simp only [parse, if_neg hlong, htype, hdata, if_neg h₀, if_neg h₁, if_neg h₂, if_neg h₃,
        if_neg h₄, if_neg h₆, if_neg h₇]
  | streamBegin v | streamEof v | streamDry v | streamIsRecorded v | pingRequest v
  | pingResponse v =>
      obtain ⟨hlong, htype, hdata⟩ := hparse _ _ rfl
      simp only [parse, if_neg hlong, htype, hdata, readU32Be_toBe]
      rfl

end UserControlEvent

end Rtmp
