import Rtmp.Session.Play

/-!
The publishing client once its stream has started: what `RtmpClient::poll_event` makes of each
message.

* `ClientEvent`: what a call returns;
* `classifyCommand`, `RtmpClient.classifyMessage`: the classification of commands and messages;
* `RtmpClient.dispatcher`: the client as a `Dispatcher`, in which a queued message that is nothing
  special is passed over; `RtmpClient.pollEvent` is its loop.
-/

namespace Rtmp

/-- One event of the server. -/
inductive ClientEvent where
  | streamBegin (streamId : UInt32)
  | streamEof (streamId : UInt32)
  | streamDry (streamId : UInt32)
  | streamIsRecorded (streamId : UInt32)
  | pingResponse (timestampMs : UInt32)
  | onStatus (level code description : String)
  | reconnectRequest (tcUrl : Option String) (description : String)
  | result (transactionId : Binary64) (values : List Amf0Value)
  | errorReply (transactionId : Binary64) (values : List Amf0Value)
  | call (c : CallCommand)
  | sharedObject (so : SharedObjectMessage Amf0Value)
  /-- Everything that is handled without the caller. -/
  | other
  deriving Repr

/-- A text member of an info object; a missing one reads as empty. -/
def infoText (info : Amf0Value) (key : String) : String :=
  ((info.get key) >>= Amf0Value.asStr).getD ""

def reconnectRequestCode : String := "NetConnection.Connect.ReconnectRequest"

/-- A status by its code and level: a request to reconnect has a code of its own. -/
def classifyStatusInfo (info : Amf0Value) : ClientEvent :=
  if infoText info "code" = reconnectRequestCode ∧ infoText info "level" = "status" then
    .reconnectRequest ((info.get "tcUrl") >>= Amf0Value.asStr) (infoText info "description")
  else .onStatus (infoText info "level") (infoText info "code") (infoText info "description")

/-- A command message by its name. -/
def classifyCommand (values : List Amf0Value) : ClientEvent :=
  let name := (commandName values).getD ""
  if name = "onStatus" then (values[3]?).elim .other classifyStatusInfo
  else if name = "_result" then .result (commandTransaction (.ofNat 0) values) values
  else if name = "_error" then .errorReply (commandTransaction (.ofNat 0) values) values
  else if isReservedCommandName name then .other
  else (CallCommand.parse values).elim .other .call

/-- The event type and the event data of a user-control body. -/
def parseUserControl (buf : List UInt8) : Except Error (UInt16 × List UInt8) :=
  if buf.length < 2 then .error (.protocolViolation "UserControl: payload < 2 bytes")
  else .ok (UInt16.ofNat (Bytes.ofBe (buf.take 2)), buf.drop 2)

/-- The stream id that is the event data of most events. -/
def ucmStreamId (eventData : List UInt8) : Except Error UInt32 :=
  if eventData.length < 4 then
    .error (.protocolViolation "UserControl: event data < 4 bytes (need stream id)")
  else .ok (u32OfBe eventData)

/-- What the client keeps besides its connection. -/
structure ClientState where
  streamId : UInt32
  nextTx : Binary64
  tcUrl : String

/-- A publishing client. -/
abbrev RtmpClient := Session ClientState

namespace RtmpClient

open Session

/-- Echo the first four bytes of a ping; a shorter ping is passed over. -/
def echoPing (eventData : List UInt8) : SessionM ClientState Unit :=
  if eventData.length ≥ 4 then
    onWriter (ChunkWriter.writeMessage csidProtocolControl
      (userControlMessage usrPingResponse (eventData.take 4)))
  else pure ()

/-- A user-control event. -/
def classifyUserControl (eventType : UInt16) (eventData : List UInt8) :
    SessionM ClientState ClientEvent :=
  if eventType = usrStreamBegin then Eff.ofExcept (.streamBegin <$> ucmStreamId eventData)
  else if eventType = usrStreamEof then Eff.ofExcept (.streamEof <$> ucmStreamId eventData)
  else if eventType = usrStreamDry then Eff.ofExcept (.streamDry <$> ucmStreamId eventData)
  else if eventType = usrSetBufferLength then
    if eventData.length < 8 then
      Eff.fail (.protocolViolation "UserControl SetBufferLength: event data < 8 bytes")
    else pure .other
  else if eventType = usrStreamIsRecorded then
    Eff.ofExcept (.streamIsRecorded <$> ucmStreamId eventData)
  else if eventType = usrPingRequest then do
    echoPing eventData
    pure .other
  else if eventType = usrPingResponse then
    if eventData.length < 4 then
      Eff.fail (.protocolViolation "UserControl PingResponse: event data < 4 bytes")
    else pure (.pingResponse (u32OfBe eventData))
  else pure .other

/-- The dispatch on the message type. -/
def classifyMessage (msg : Message) : SessionM ClientState ClientEvent :=
  if msg.msgTypeId = msgSetChunkSize then do
    handleSetChunkSize msg
    pure .other
  else if msg.msgTypeId = msgWindowAckSize then do
    handleWindowAckSize msg
    pure .other
  else if msg.msgTypeId = msgSetPeerBandwidth then do
    handleSetPeerBandwidth msg
    pure .other
  else if msg.msgTypeId = msgAck then pure .other
  else if msg.msgTypeId = msgUserControl then do
    let ev ← Eff.ofExcept (parseUserControl msg.payload)
    classifyUserControl ev.1 ev.2
  else if msg.msgTypeId = msgCommandAmf0 then
    Eff.ofExcept (classifyCommand <$> Amf.decodeAll msg.payload)
  else if msg.msgTypeId = msgCommandAmf3 then
    Eff.ofExcept (classifyCommand <$> Amf3.decodeMessageToAmf0 msg.payload)
  else if msg.msgTypeId = msgSharedObjectAmf0 ∨ msg.msgTypeId = msgSharedObjectAmf3 then
    Eff.ofExcept (.sharedObject <$> parseSharedObject msg)
  else if msg.msgTypeId = msgAggregate then do
    handleAggregate msg
    pure .other
  else
    pure .other

/-- A queued message that is nothing special is not reported. -/
def reported : ClientEvent → Option ClientEvent
  | .other => none
  | ev => some ev

/-- A message out of an aggregate. -/
def handleSub (msg : Message) : SessionM ClientState (Option ClientEvent) := do
  let ev ← classifyMessage msg
  pure (reported ev)

/-- A message off the wire: an aggregate is not reported itself. -/
def handleWire (msg : Message) : SessionM ClientState (Option ClientEvent) :=
  if msg.msgTypeId = msgAggregate then do
    handleAggregate msg
    pure none
  else do
    let ev ← classifyMessage msg
    pure (some ev)

/-! ### What holds of the handlers -/

lemma classifyUserControl_closed {Q : ∀ {α : Type}, SessionM ClientState α → Prop} (h : Closed Q)
    (eventType : UInt16) (eventData : List UInt8) : Q (classifyUserControl eventType eventData) := by
  have hping : Q (echoPing eventData) := Closed.ite (h.writeControl _) (h.pure _)
  refine Closed.ite (h.ofExcept _) (Closed.ite (h.ofExcept _) (Closed.ite (h.ofExcept _) ?_))
  refine Closed.ite (Closed.ite (h.fail _) (h.pure _)) (Closed.ite (h.ofExcept _) ?_)
  refine Closed.ite (h.bind hping fun _ => h.pure _) ?_
  exact Closed.ite (Closed.ite (h.fail _) (h.pure _)) (h.pure _)

/-- **The walk** through the dispatch. -/
theorem classifyMessage_handled {Q P : ∀ {α : Type}, SessionM ClientState α → Prop} {msg : Message}
    (h : Handled msg Q P) : P (classifyMessage msg) := by
  refine Handled.ite (fun ht => h.map _ (h.setChunkSize ht)) fun hchunk => ?_
  refine Handled.ite (fun ht => h.map _ (h.windowAckSize ht)) fun hwindow => ?_
  refine Handled.ite (fun ht => h.map _ (h.setPeerBandwidth ht)) fun hbandwidth => ?_
  refine Handled.ite (fun ht => h.of_type ht rfl (h.closed.pure _)) fun _ => ?_
  refine Handled.ite (fun ht => h.of_type ht rfl ?_) fun _ => ?_
  · exact h.closed.bind (h.closed.ofExcept _) fun ev => classifyUserControl_closed h.closed ev.1 ev.2
  refine Handled.ite (fun ht => h.of_type ht rfl (h.closed.ofExcept _)) fun _ => ?_
  refine Handled.ite (fun ht => h.of_type ht rfl (h.closed.ofExcept _)) fun _ => ?_
  refine Handled.ite (fun ht => ht.elim (fun ht => h.of_type ht rfl (h.closed.ofExcept _))
    fun ht => h.of_type ht rfl (h.closed.ofExcept _)) fun _ => ?_
  refine Handled.ite (fun ht => h.map _ (h.aggregate ht)) fun haggregate => ?_
  refine h.other ?_ (h.closed.pure _)
  simp [isManaged, hchunk, hwindow, hbandwidth, haggregate]

lemma handleSub_handled {Q P : ∀ {α : Type}, SessionM ClientState α → Prop} {msg : Message}
    (h : Handled msg Q P) : P (handleSub msg) :=
  h.map _ (classifyMessage_handled h)

lemma handleWire_handled {Q P : ∀ {α : Type}, SessionM ClientState α → Prop} {msg : Message}
    (h : Handled msg Q P) : P (handleWire msg) :=
  Handled.ite (fun ht => h.map _ (h.aggregate ht)) fun _ => h.map _ (classifyMessage_handled h)

/-- The client; the end of the stream is noted. -/
def dispatcher : Dispatcher ClientState ClientEvent where
  onSub := handleSub
  onWire := handleWire
  closes := closes
  latch := Session.close
  onSub_detached msg := handleSub_handled (detached_handled msg)
  onWire_detached msg := handleWire_handled (detached_handled msg)
  onSub_queues msg := handleSub_handled (queues_handled msg)
  latch_withWire _ _ _ := rfl

/-- The next event of the server, or nothing once it is gone. -/
def pollEvent (s : RtmpClient) : Except Error (Option ClientEvent) × RtmpClient :=
  dispatcher.next s

end RtmpClient

end Rtmp
