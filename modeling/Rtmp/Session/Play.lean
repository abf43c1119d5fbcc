import Rtmp.Session.Publish

/-!
The server's side of a play session: what `PlaySession::next_event` makes of each message.

* `PlaySessionEvent`: what a call returns;
* `PlaySession.handleEventMessage`: the dispatch on the message type;
* `PlaySession.dispatcher`: the session as a `Dispatcher`; `PlaySession.nextEvent` is its loop.
-/

namespace Rtmp

/-- One event of a subscriber. -/
inductive PlaySessionEvent where
  | command (cmd : NetStreamCommand)
  | setBufferLength (bufferMs : UInt32)
  | call (c : CallCommand)
  | callReply (success : Bool) (transactionId : Binary64) (values : List Amf0Value)
  | sharedObject (so : SharedObjectMessage Amf0Value)
  deriving Repr

def CommandEvent.toPlaySessionEvent : CommandEvent → PlaySessionEvent
  | command cmd => .command cmd
  | call c => .call c
  | callReply success transactionId values => .callReply success transactionId values

/-- What a play session keeps besides its connection. -/
structure PlayState where
  app : String
  streamName : String
  streamId : UInt32
  deriving DecidableEq, Repr

/-- A play session. -/
abbrev PlaySession := Session PlayState

/-- Answer a ping of the peer. -/
def Session.answerPing {τ : Type} (timestampMs : UInt32) : SessionM τ Unit :=
  Session.onWriter
    (ChunkWriter.writeMessage csidProtocolControl (buildUserControlPingResponse timestampMs))

/-- The failures of the reader that mean the peer is gone. -/
def Session.closes : Error → Bool
  | .io kind => kind.isClosed
  | .unexpectedEof => true
  | _ => false

namespace PlaySession

open Session

/-- The commands that end a play session. -/
def teardown : List String := ["closeStream", "deleteStream", "close"]

/-- A command message. -/
def classifyCommandValues (values : List Amf0Value) : SessionM PlayState (Option PlaySessionEvent) := do
  let ev ← classifyCommand teardown values
  pure (ev.map CommandEvent.toPlaySessionEvent)

/-- A user-control event. -/
def handleUserControl : UserControlEvent → SessionM PlayState (Option PlaySessionEvent)
  | .setBufferLength _ bufferMs => pure (some (.setBufferLength bufferMs))
  | .pingRequest timestampMs => do
      answerPing timestampMs
      pure none
  | _ => pure none

/-- The dispatch on the message type. -/
def handleEventMessage (msg : Message) : SessionM PlayState (Option PlaySessionEvent) :=
  if msg.msgTypeId = msgCommandAmf0 then do
    let values ← Eff.ofExcept (Amf.decodeAll msg.payload)
    classifyCommandValues values
  else if msg.msgTypeId = msgCommandAmf3 then do
    let values ← Eff.ofExcept (Amf3.decodeMessageToAmf0 msg.payload)
    classifyCommandValues values
  else if msg.msgTypeId = msgSharedObjectAmf0 ∨ msg.msgTypeId = msgSharedObjectAmf3 then do
    let so ← Eff.ofExcept (parseSharedObject msg)
    pure (some (.sharedObject so))
  else if msg.msgTypeId = msgUserControl then do
    let ev ← Eff.ofExcept (UserControlEvent.parse msg.payload)
    handleUserControl ev
  else if msg.msgTypeId = msgSetChunkSize then do
    handleSetChunkSize msg
    pure none
  else if msg.msgTypeId = msgWindowAckSize then do
    handleWindowAckSize msg
    pure none
  else if msg.msgTypeId = msgSetPeerBandwidth then do
    handleSetPeerBandwidth msg
    pure none
  else if msg.msgTypeId = msgAggregate then do
    handleAggregate msg
    pure none
  else
    -- Acknowledgements, media and everything unknown
    pure none

/-! ### What holds of the handlers -/

/-- **The walk** through the dispatch. -/
theorem handleEventMessage_handled {Q P : ∀ {α : Type}, SessionM PlayState α → Prop} {msg : Message}
    (h : Handled msg Q P) : P (handleEventMessage msg) := by
  have hcommand : ∀ x : Except Error (List Amf0Value), Q (Eff.ofExcept x >>= classifyCommandValues) :=
    fun x => h.closed.bind (h.closed.ofExcept x) fun _ =>
      h.closed.bind (h.closed.classifyCommand _ _) fun _ => h.closed.pure _
  have hcontrol : ∀ ev, Q (handleUserControl ev) := by
    intro ev
    cases ev with
    | pingRequest timestampMs => exact h.closed.bind (h.closed.writeControl _) fun _ => h.closed.pure _
    | _ => exact h.closed.pure _
  refine Handled.ite (fun ht => h.of_type ht rfl (hcommand _)) fun _ => ?_
  refine Handled.ite (fun ht => h.of_type ht rfl (hcommand _)) fun _ => ?_
  refine Handled.ite (fun ht => ht.elim (fun ht => h.of_type ht rfl (h.closed.parsed _ _))
    fun ht => h.of_type ht rfl (h.closed.parsed _ _)) fun _ => ?_
  refine Handled.ite (fun ht => h.of_type ht rfl ?_) fun _ => h.managed _ (h.closed.pure _)
  exact h.closed.bind (h.closed.ofExcept _) fun _ => hcontrol _

/-- A play session; the end of the stream is noted. -/
def dispatcher : Dispatcher PlayState PlaySessionEvent where
  onSub := handleEventMessage
  onWire := handleEventMessage
  closes := closes
  latch := Session.close
  onSub_detached msg := handleEventMessage_handled (detached_handled msg)
  onWire_detached msg := handleEventMessage_handled (detached_handled msg)
  onSub_queues msg := handleEventMessage_handled (queues_handled msg)
  latch_withWire _ _ _ := rfl

/-- The next event of the subscriber, or nothing once it is gone. -/
def nextEvent (s : PlaySession) : Except Error (Option PlaySessionEvent) × PlaySession :=
  dispatcher.next s

end PlaySession

end Rtmp
