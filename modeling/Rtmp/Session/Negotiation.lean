import Rtmp.Amf.Debug
import Rtmp.Message.Capabilities
import Rtmp.Session.Player

/-!
How a connection is set up after the handshake.

* `Link`: a connection before it is a session, and `Link.waitFor`, the loop that every wait is;
* `driveUntilRequest`, `PublishRequest.accept`, `PlayRequest.acceptMode`: the server's side;
  `RtmpServer.serve` puts them together;
* `RtmpClient.connectParsed`, `RtmpPlayer.connectWithOptions`: the two clients' sides, with
  `waitForResult`, `waitForPublishStart` and `waitForPlayStart`.
-/

namespace Rtmp

/-- A connection while it is being set up. -/
structure Link where
  reader : ChunkReader
  writer : ChunkWriter
  /-- The messages that were read, the first one first.  No step looks at them: they are kept for
  what is said about the negotiation. -/
  heard : List Message

/-- A fallible operation of a connection that is being set up. -/
abbrev LinkM (α : Type) := Eff Error Link α

namespace Link

variable {α β σ : Type}

/-- The connection after the handshake. -/
def opened (stream : List ReadEvent) : Link := ⟨.new stream, .new, []⟩

def onReader (x : ReaderM α) : LinkM α := Eff.zoom reader (fun r l => { l with reader := r }) x

def onWriter (x : WriterM α) : LinkM α := Eff.zoom writer (fun w l => { l with writer := w }) x

/-- Read a message. -/
def hear : LinkM Message := do
  let msg ← onReader ChunkReader.readMessage
  Eff.modify fun l => { l with heard := l.heard ++ [msg] }
  pure msg

def write (csid : UInt32) (msg : Message) : LinkM Unit := onWriter (ChunkWriter.writeMessage csid msg)

/-- Announce a chunk size and use it. -/
def announceChunkSize (size : UInt32) : LinkM Unit := do
  write csidProtocolControl (buildSetChunkSize size)
  onWriter (Eff.modify (ChunkWriter.setChunkSize size.toNat))

/-- Messages until one settles what is waited for, for at most `rounds` of them. -/
def await (step : σ → Message → LinkM (σ ⊕ β)) : (rounds : ℕ) → σ → LinkM β
  | 0, _ => Eff.fail (.io .unexpectedEof)
  | rounds + 1, st => do
      let msg ← hear
      match ← step st msg with
      | .inl st => await step rounds st
      | .inr b => pure b

/-- Messages until one settles what is waited for.  Every message takes input, so the rounds are never
used up. -/
def waitFor (step : σ → Message → LinkM (σ ⊕ β)) (st : σ) : LinkM β where
  run l := (await step (l.reader.stream.length + 1) st).run l

/-- What every wait but one does with protocol control; other messages are left to `other`. -/
def negotiate (msg : Message) (st : σ) (other : LinkM (σ ⊕ β)) : LinkM (σ ⊕ β) :=
  if msg.msgTypeId = msgSetChunkSize then do
    let size ← Eff.ofExcept (readU32Be msg.payload)
    onReader (Eff.modify (ChunkReader.setChunkSize (size &&& 0x7FFFFFFF).toNat))
    pure (.inl st)
  else if msg.msgTypeId = msgWindowAckSize then do
    let size ← Eff.ofExcept (readU32Be msg.payload)
    onReader (Eff.modify (ChunkReader.setWindowAckSize size))
    pure (.inl st)
  else if msg.msgTypeId = msgSetPeerBandwidth ∧ 4 ≤ msg.payload.length then do
    let size ← Eff.ofExcept (readU32Be (msg.payload.take 4))
    onReader (Eff.modify (ChunkReader.setWindowAckSize size))
    pure (.inl st)
  else other

end Link

open Link

/-! ### The server -/

/-- The window the server announces. -/
def windowAckSize : UInt32 := 5000000

def serverChunkSize : UInt32 := 4096

/-- The values of a command message, in either format. -/
def commandBody (msg : Message) : Except Error (List Amf0Value) :=
  if msg.msgTypeId = msgCommandAmf3 then Amf3.decodeMessageToAmf0 msg.payload
  else Amf.decodeAll msg.payload

/-- The name of a command, or the error that there is none. -/
def requireName (values : List Amf0Value) : Except Error String :=
  match commandName values with
  | some name => .ok name
  | none => .error (.invalidCommand "missing command name")

/-- What the connect command of a client says. -/
structure ConnectRequest where
  tcUrl : String
  app : String
  capabilities : ConnectCapabilities

/-- The answer to a connect command: the windows, the stream that is the session itself, the result and
the chunk size. -/
def answerConnect (txId : Binary64) (serverCaps : ConnectCapabilities) : LinkM Unit := do
  write csidProtocolControl (buildWindowAckSize windowAckSize)
  write csidProtocolControl (buildSetPeerBandwidth windowAckSize peerBandwidthLimitDynamic)
  write csidProtocolControl (buildUserControlStreamBegin 0)
  write csidCommand (buildConnectResultWithCaps txId serverCaps)
  announceChunkSize serverChunkSize

/-- The command that opens a connection, which has to come first. -/
def connectCommand (serverCaps : ConnectCapabilities) (values : List Amf0Value) :
    LinkM ConnectRequest := do
  let name ← Eff.ofExcept (requireName values)
  if name ≠ "connect" then
    Eff.fail (.invalidCommand ("expected `connect` first, got `" ++ name ++ "`"))
  else
    let txId := commandTransaction (.ofNat 1) values
    match values[2]? with
    | none => Eff.fail (.invalidCommand "`connect` missing command object")
    | some cmdObj => do
        answerConnect txId serverCaps
        pure
          { tcUrl := infoText cmdObj "tcUrl"
            app := infoText cmdObj "app"
            capabilities := .fromAmf0 cmdObj }

/-- Wait for the connect command. -/
def awaitConnect (serverCaps : ConnectCapabilities) : LinkM ConnectRequest :=
  waitFor (fun () msg => negotiate msg () (
    if msg.msgTypeId = msgCommandAmf0 ∨ msg.msgTypeId = msgCommandAmf3 then do
      let values ← Eff.ofExcept (commandBody msg)
      let request ← connectCommand serverCaps values
      pure (.inr request)
    else pure (.inl ()))) ()

/-- The direction a peer announced, on a message stream. -/
inductive StreamCommand where
  | publish (streamName publishType : String)
  | play (streamName : String) (start duration : Option Binary64) (reset : Option Bool)

/-- A publisher that waits to be accepted; its connection is the link. -/
structure PublishRequest where
  app : String
  streamName : String
  publishType : String
  tcUrl : String
  capabilities : ConnectCapabilities
  streamId : UInt32

/-- A subscriber that waits to be accepted; its connection is the link. -/
structure PlayRequest where
  app : String
  streamName : String
  start : Option Binary64
  duration : Option Binary64
  reset : Option Bool
  bufferLengthMs : Option UInt32
  tcUrl : String
  capabilities : ConnectCapabilities
  streamId : UInt32

/-- A connection by the direction the peer announced. -/
inductive SessionRequest where
  | publish (req : PublishRequest)
  | play (req : PlayRequest)

/-- What the server keeps between the commands that precede the direction. -/
structure Preparing where
  nextStreamId : UInt32
  bufferLengthMs : Option UInt32

/-- The arguments of a publish command. -/
def publishCommand (values : List Amf0Value) : Except Error StreamCommand :=
  match values[3]? >>= Amf0Value.asStr with
  | none => .error (.invalidCommand "publish missing stream_name")
  | some streamName =>
      .ok (.publish streamName ((values[4]? >>= Amf0Value.asStr).getD "live"))

/-- The arguments of a play command. -/
def playCommand (values : List Amf0Value) : Except Error StreamCommand := do
  match ← NetStreamCommand.parse values with
  | some (.play streamName start duration reset) => .ok (.play streamName start duration reset)
  | _ => .error (.invalidCommand "`play` did not parse as a NetStream play command")

/-- A command between connect and the direction. -/
def prepareCommand (st : Preparing) (values : List Amf0Value) :
    LinkM (Preparing ⊕ StreamCommand) := do
  let name ← Eff.ofExcept (requireName values)
  let txId := commandTransaction (.ofNat 0) values
  if name = "releaseStream" ∨ name = "FCPublish" then do
    write csidCommand (sessionCommand "_result" txId .null [.undefined])
    pure (.inl st)
  else if name = "createStream" then do
    write csidCommand (buildCreateStreamResult txId (.ofNat st.nextStreamId.toNat))
    pure (.inl { st with nextStreamId := st.nextStreamId + 1 })
  else if name = "publish" then do
    let cmd ← Eff.ofExcept (publishCommand values)
    pure (.inr cmd)
  else if name = "play" then do
    let cmd ← Eff.ofExcept (playCommand values)
    pure (.inr cmd)
  else pure (.inl st)

/-- The request that a direction on a message stream is. -/
def toRequest (connect : ConnectRequest) (bufferLengthMs : Option UInt32) (streamId : UInt32) :
    StreamCommand → SessionRequest
  | .publish streamName publishType => .publish
      { app := connect.app, streamName, publishType, tcUrl := connect.tcUrl
        capabilities := connect.capabilities, streamId }
  | .play streamName start duration reset => .play
      { app := connect.app, streamName, start, duration, reset, bufferLengthMs, tcUrl := connect.tcUrl
        capabilities := connect.capabilities, streamId }

/-- The buffer length a user-control event asks for, or the one asked for before. -/
def Preparing.bufferLength (st : Preparing) (payload : List UInt8) : Preparing :=
  match UserControlEvent.parse payload with
  | .ok (.setBufferLength _ bufferMs) => { st with bufferLengthMs := some bufferMs }
  | _ => st

/-- Wait for the direction. -/
def awaitRequest (connect : ConnectRequest) : LinkM SessionRequest :=
  waitFor (fun (st : Preparing) msg => negotiate msg st (
    if msg.msgTypeId = msgUserControl then pure (.inl (st.bufferLength msg.payload))
    else if msg.msgTypeId = msgCommandAmf0 ∨ msg.msgTypeId = msgCommandAmf3 then do
      let values ← Eff.ofExcept (commandBody msg)
      match ← prepareCommand st values with
      | .inl st => pure (.inl st)
      | .inr cmd => pure (.inr (toRequest connect st.bufferLengthMs (max msg.msgStreamId 1) cmd))
    else pure (.inl st))) ⟨1, none⟩

/-- The server's side up to the request. -/
def driveUntilRequest (serverCaps : ConnectCapabilities) : LinkM SessionRequest := do
  let connect ← awaitConnect serverCaps
  awaitRequest connect

/-- The session a link becomes. -/
def Link.session {τ : Type} (own : τ) (l : Link) : Session τ := .opened l.reader l.writer own

namespace PublishRequest

/-- Take the stream. -/
def accept (req : PublishRequest) : LinkM RtmpSession := do
  write csidProtocolControl (buildUserControlStreamBegin req.streamId)
  write csidCommand (buildOnStatus req.streamId "status" statusPublishStart
    ("Started publishing " ++ req.streamName))
  Eff.gets (Link.session ⟨req.app, req.streamName, req.publishType, req.streamId, []⟩)

/-- Refuse the stream; a failure to say so does not matter. -/
def reject (req : PublishRequest) (reason : String) : LinkM Unit := do
  let _ ← Eff.attempt (write csidCommand
    (buildOnStatus req.streamId "error" statusPublishBadName reason))
  Eff.fail (.rejected reason)

end PublishRequest

namespace PlayRequest

/-- Announce the stream, as recorded or not, and start it. -/
def acceptMode (req : PlayRequest) (recorded : Bool) : LinkM PlaySession := do
  if recorded then write csidProtocolControl (buildUserControlStreamIsRecorded req.streamId)
  write csidProtocolControl (buildUserControlStreamBegin req.streamId)
  if req.reset = some true then
    write csidCommand (buildOnStatus req.streamId "status" statusPlayReset
      ("Playing and resetting " ++ req.streamName))
  write csidCommand (buildOnStatus req.streamId "status" statusPlayStart
    ("Started playing " ++ req.streamName))
  Eff.gets (Link.session ⟨req.app, req.streamName, req.streamId⟩)

def accept (req : PlayRequest) : LinkM PlaySession := req.acceptMode false

def acceptRecorded (req : PlayRequest) : LinkM PlaySession := req.acceptMode true

/-- Refuse the stream; a failure to say so does not matter. -/
def reject (req : PlayRequest) (reason : String) : LinkM Unit := do
  let _ ← Eff.attempt (write csidCommand
    (buildOnStatus req.streamId "error" statusPlayStreamNotFound reason))
  Eff.fail (.rejected reason)

end PlayRequest

namespace RtmpServer

/-- A connection of `serve_sessions`: what is made of it once it has been set up. -/
def serveSession {α : Type} (serverCaps : ConnectCapabilities) (handler : SessionRequest → LinkM α) :
    LinkM α := do
  let req ← driveUntilRequest serverCaps
  handler req

/-- What `serve` does with a connection: it has nothing to play. -/
def serving {α : Type} (handler : PublishRequest → LinkM α) : SessionRequest → LinkM (Option α)
  | .publish req => do
      let a ← handler req
      pure (some a)
  | .play req => do
      let _ ← Eff.attempt (req.reject "publish-only endpoint")
      pure none

/-- A connection of `serve`. -/
def serve {α : Type} (serverCaps : ConnectCapabilities) (handler : PublishRequest → LinkM α) :
    LinkM (Option α) :=
  serveSession serverCaps (serving handler)

end RtmpServer

/-! ### The clients -/

def clientChunkSize : UInt32 := 4096

def flashVer : String := "FMLE/3.0 (compatible; oxideav-rtmp)"

/-- What is dialled, without the address. -/
structure RtmpUrl where
  app : String
  streamName : String
  tcUrl : String

/-- The failure of an error reply. -/
def errorReply (values : List Amf0Value) : Error :=
  .other ("RTMP _error from server: " ++ debugOption values[3]?)

/-- Wait for the reply to a transaction; an error reply to any ends the wait. -/
def waitForResult (expectedTx : Binary64) : LinkM (List Amf0Value) :=
  waitFor (fun () msg => negotiate msg () (
    if msg.msgTypeId = msgCommandAmf0 then do
      let values ← Eff.ofExcept (Amf.decodeAll msg.payload)
      let name := (commandName values).getD ""
      let tx := commandTransaction (.ofInt (-1)) values
      if name = "_result" ∧ Binary64.eq tx expectedTx then pure (.inr values)
      else if name = "_error" then Eff.fail (errorReply values)
      else pure (.inl ())
    else pure (.inl ()))) ()

/-- The last number of a reply. -/
def lastNumber (values : List Amf0Value) : Option Binary64 :=
  values.reverse.findSome? Amf0Value.asF64

/-- Wait for the reply that names the new message stream. -/
def waitForCreateStreamResult (expectedTx : Binary64) : LinkM UInt32 := do
  let values ← waitForResult expectedTx
  match lastNumber values with
  | some sid => pure sid.toU32
  | none => Eff.fail (.invalidCommand "createStream result has no stream id")

/-- Whether a message settles the wait for the start of a publication, whatever it says. -/
def settlesPublish (msg : Message) : LinkM Bool :=
  if msg.msgTypeId = msgUserControl then pure true
  else if msg.msgTypeId = msgCommandAmf0 then do
    let values ← Eff.ofExcept (Amf.decodeAll msg.payload)
    pure (match commandName values with
      | some name => name = "onStatus" ∨ name = "_result"
      | none => false)
  else pure false

/-- Wait for the start of a publication, for `rounds` messages; a read that times out settles it too. -/
def awaitPublishStart : (rounds : ℕ) → LinkM Unit
  | 0 => pure ()
  | rounds + 1 => do
      match ← Eff.attempt hear with
      | .error (.io kind) => if kind.isTimeout then pure () else Eff.fail (.io kind)
      | .error e => Eff.fail e
      | .ok msg => do
          let settled ← settlesPublish msg
          if settled then pure () else awaitPublishStart rounds

def waitForPublishStart : LinkM Unit := awaitPublishStart 20

namespace RtmpClient

/-- Up to the publish command: the message stream it is sent on, and the reply to connect. -/
def requestPublish (u : RtmpUrl) (publishType : String) (caps : ConnectCapabilities) :
    LinkM (UInt32 × List Amf0Value) := do
  announceChunkSize clientChunkSize
  write csidCommand (buildConnectWithCaps (.ofNat 1) u.app u.tcUrl flashVer caps)
  let connectResult ← waitForResult (.ofNat 1)
  write csidCommand (buildReleaseStream (.ofNat 2) u.streamName)
  write csidCommand (buildFcPublish (.ofNat 3) u.streamName)
  write csidCommand (buildCreateStream (.ofNat 4))
  let streamId ← waitForCreateStreamResult (.ofNat 4)
  write csidCommand (buildPublish (.ofNat 5) streamId u.streamName publishType)
  pure (streamId, connectResult)

/-- Set up a publication: the client, and what the server said it can do. -/
def connectParsed (u : RtmpUrl) (publishType : String) (caps : ConnectCapabilities) :
    LinkM (RtmpClient × ConnectCapabilities) := do
  let (streamId, connectResult) ← requestPublish u publishType caps
  waitForPublishStart
  let client ← Eff.gets (Link.session ⟨streamId, .ofNat 10, u.tcUrl⟩)
  pure (client, extractServerCaps connectResult)

end RtmpClient

structure PlayOptions where
  start : Option Binary64
  duration : Option Binary64
  reset : Option Bool
  bufferLengthMs : Option UInt32
  capabilities : ConnectCapabilities

/-- A status while the start of a stream is waited for: whether it has started; a refusal is an
error. -/
def playStatus (info : Option Amf0Value) : Except Error Bool :=
  let text := fun key => (info.map fun i => infoText i key).getD ""
  if text "code" = statusPlayStart then .ok true
  else if text "code" = statusPlayStreamNotFound ∨ text "level" = "error" then
    .error (.rejected ("play refused: " ++ text "code" ++ ": " ++ text "description"))
  else .ok false

/-- A user-control event while the start of a stream is waited for: whether the stream is recorded. -/
def playControl (isRecorded : Bool) (payload : List UInt8) : LinkM Bool :=
  match UserControlEvent.parse payload with
  | .ok (.streamIsRecorded _) => pure true
  | .ok (.pingRequest timestampMs) => do
      write csidProtocolControl (buildUserControlPingResponse timestampMs)
      pure isRecorded
  | _ => pure isRecorded

/-- Wait for the start of a stream, for `rounds` messages: whether it is recorded. -/
def awaitPlayStart (step : Bool → Message → LinkM (Bool ⊕ Bool)) : (rounds : ℕ) → Bool → LinkM Bool
  | 0, _ => Eff.fail .timeout
  | rounds + 1, isRecorded => do
      let msg ← hear
      match ← step isRecorded msg with
      | .inl isRecorded => awaitPlayStart step rounds isRecorded
      | .inr isRecorded => pure isRecorded

def waitForPlayStart : LinkM Bool :=
  awaitPlayStart (fun isRecorded msg => negotiate msg isRecorded (
    if msg.msgTypeId = msgUserControl then do
      let isRecorded ← playControl isRecorded msg.payload
      pure (.inl isRecorded)
    else if msg.msgTypeId = msgCommandAmf0 then do
      let values ← Eff.ofExcept (Amf.decodeAll msg.payload)
      let name := (commandName values).getD ""
      if name = "onStatus" then do
        let started ← Eff.ofExcept (playStatus values[3]?)
        pure (if started then .inr isRecorded else .inl isRecorded)
      else if name = "_error" then Eff.fail (errorReply values)
      else pure (.inl isRecorded)
    else pure (.inl isRecorded))) 50 false

namespace RtmpPlayer

/-- Ask for the buffer length that is wanted, if any. -/
def askBufferLength (streamId : UInt32) : Option UInt32 → LinkM Unit
  | some ms => write csidProtocolControl (buildUserControlSetBufferLength streamId ms)
  | none => pure ()

/-- Set up a played stream: the player, and what the server said it can do. -/
def connectWithOptions (u : RtmpUrl) (opts : PlayOptions) :
    LinkM (RtmpPlayer × ConnectCapabilities) := do
  announceChunkSize clientChunkSize
  write csidCommand (buildConnectWithCaps (.ofNat 1) u.app u.tcUrl flashVer opts.capabilities)
  let connectResult ← waitForResult (.ofNat 1)
  write csidCommand (buildCreateStream (.ofNat 2))
  let streamId ← waitForCreateStreamResult (.ofNat 2)
  askBufferLength streamId opts.bufferLengthMs
  write csidCommand
    (NetStreamCommand.toMessage streamId (.play u.streamName opts.start opts.duration opts.reset))
  let isRecorded ← waitForPlayStart
  let player ← Eff.gets (Link.session ⟨streamId, u.tcUrl, u.streamName, isRecorded, .ofNat 10⟩)
  pure (player, extractServerCaps connectResult)

end RtmpPlayer

end Rtmp
