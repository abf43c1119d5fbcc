import Rtmp.Session.Client

/-!
The playing client once its stream has started: what `RtmpPlayer::next_packet` makes of each
message.

* `PlayerPacket`: what a call returns;
* `RtmpPlayer.handleMessage`: the dispatch on the message type;
* `RtmpPlayer.dispatcher`: the player as a `Dispatcher`; `RtmpPlayer.nextPacket` is its loop.
-/

namespace Rtmp

open Flv

/-- One item of a played stream. -/
inductive PlayerPacket where
  | audio (timestamp : UInt32) (tag : AudioTag)
  | video (timestamp : UInt32) (tag : VideoTag)
  | metadata (value : Amf0Value)
  | status (level code description : String)
  | control (ev : UserControlEvent)
  | call (c : CallCommand)
  | callReply (success : Bool) (transactionId : Binary64) (values : List Amf0Value)
  | sharedObject (so : SharedObjectMessage Amf0Value)
  deriving Repr

/-- A command message by its name. -/
def classifyStatus (values : List Amf0Value) : Option PlayerPacket :=
  match commandName values with
  | none => none
  | some name =>
      if name = "_result" ∨ name = "_error" then
        some (.callReply (name = "_result") (commandTransaction (.ofNat 0) values) values)
      else if name ≠ "onStatus" then
        if isReservedCommandName name then none else (CallCommand.parse values).map .call
      else
        (values[3]?).map fun info =>
          .status (infoText info "level") (infoText info "code") (infoText info "description")

/-- What the player keeps besides its connection. -/
structure PlayerState where
  streamId : UInt32
  tcUrl : String
  streamName : String
  isRecorded : Bool
  nextTx : Binary64

/-- A playing client. -/
abbrev RtmpPlayer := Session PlayerState

namespace RtmpPlayer

open Session

/-- Note that the server called the stream recorded. -/
def noteRecorded : SessionM PlayerState Unit :=
  Eff.modify fun s => { s with own := { s.own with isRecorded := true } }

/-- A user-control event: the end of the stream ends the player. -/
def handleUserControl (ev : UserControlEvent) : SessionM PlayerState (Option PlayerPacket) :=
  match ev with
  | .streamEof _ => do
      finish
      pure none
  | .pingRequest timestampMs => do
      answerPing timestampMs
      pure none
  | .streamIsRecorded _ => do
      noteRecorded
      pure (some (.control ev))
  | _ => pure (some (.control ev))

/-- The dispatch on the message type. -/
def handleMessage (msg : Message) : SessionM PlayerState (Option PlayerPacket) :=
  if msg.msgTypeId = msgAudio then do
    let tag ← Eff.ofExcept (parseAudio msg.payload)
    pure (some (.audio msg.timestamp tag))
  else if msg.msgTypeId = msgVideo then do
    let tag ← Eff.ofExcept (parseVideo msg.payload)
    pure (some (.video msg.timestamp tag))
  else if msg.msgTypeId = msgDataAmf0 then do
    let values ← Eff.ofExcept (Amf.decodeAll msg.payload)
    pure ((metadataObject values).map .metadata)
  else if msg.msgTypeId = msgDataAmf3 then do
    let values ← Eff.ofExcept (Amf3.decodeMessageToAmf0 msg.payload)
    pure ((metadataObject values).map .metadata)
  else if msg.msgTypeId = msgCommandAmf0 then do
    let values ← Eff.ofExcept (Amf.decodeAll msg.payload)
    pure (classifyStatus values)
  else if msg.msgTypeId = msgCommandAmf3 then do
    let values ← Eff.ofExcept (Amf3.decodeMessageToAmf0 msg.payload)
    pure (classifyStatus values)
  else if msg.msgTypeId = msgSharedObjectAmf0 ∨ msg.msgTypeId = msgSharedObjectAmf3 then do
    let so ← Eff.ofExcept (parseSharedObject msg)
    pure (some (.sharedObject so))
  else if msg.msgTypeId = msgUserControl then do
    let ev ← Eff.ofExcept (UserControlEvent.parse msg.payload)
    handleUserControl ev
  else if msg.msgTypeId = msgSetChunkSize then do
    handleSetChunkSize msg
    pure none
  else if msg.msgTypeId = msgWindowAckSize then do
    handleWindowAckSize msg
    pure none
  else if msg.msgTypeId = msgSetPeerBandwidth then do
    handleSetPeerBandwidth msg
    pure none
  else if msg.msgTypeId = msgAggregate then do
    handleAggregate msg
    pure none
  else
    -- Acknowledgements and everything unknown
    pure none

/-! ### What holds of the handlers -/

lemma handleUserControl_closed {Q : ∀ {α : Type}, SessionM PlayerState α → Prop} (h : Closed Q)
    (ev : UserControlEvent) : Q (handleUserControl ev) := by
  cases ev with
  | streamEof streamId => exact h.bind (h.note (fun _ => true) id) fun _ => h.pure _
  | pingRequest timestampMs => exact h.bind (h.writeControl _) fun _ => h.pure _
  | streamIsRecorded streamId =>
      exact h.bind (h.note id fun own => { own with isRecorded := true }) fun _ => h.pure _
  | _ => exact h.pure _

/-- **The walk** through the dispatch. -/
theorem handleMessage_handled {Q P : ∀ {α : Type}, SessionM PlayerState α → Prop} {msg : Message}
    (h : Handled msg Q P) : P (handleMessage msg) := by
  refine Handled.ite (fun ht => h.of_type ht rfl (h.closed.parsed _ _)) fun _ => ?_
  refine Handled.ite (fun ht => h.of_type ht rfl (h.closed.parsed _ _)) fun _ => ?_
  refine Handled.ite (fun ht => h.of_type ht rfl (h.closed.parsed _ _)) fun _ => ?_
  refine Handled.ite (fun ht => h.of_type ht rfl (h.closed.parsed _ _)) fun _ => ?_
  refine Handled.ite (fun ht => h.of_type ht rfl (h.closed.parsed _ _)) fun _ => ?_
  refine Handled.ite (fun ht => h.of_type ht rfl (h.closed.parsed _ _)) fun _ => ?_
  refine Handled.ite (fun ht => ht.elim (fun ht => h.of_type ht rfl (h.closed.parsed _ _))
    fun ht => h.of_type ht rfl (h.closed.parsed _ _)) fun _ => ?_
  refine Handled.ite (fun ht => h.of_type ht rfl ?_) fun _ => h.managed _ (h.closed.pure _)
  exact h.closed.bind (h.closed.ofExcept _) fun ev => handleUserControl_closed h.closed ev

/-- The player; the end of the stream is noted. -/
def dispatcher : Dispatcher PlayerState PlayerPacket where
  onSub := handleMessage
  onWire := handleMessage
  closes := closes
  latch := Session.close
  onSub_detached msg := handleMessage_handled (detached_handled msg)
  onWire_detached msg := handleMessage_handled (detached_handled msg)
  onSub_queues msg := handleMessage_handled (queues_handled msg)
  latch_withWire _ _ _ := rfl

/-- The next item of the stream, or nothing at its end. -/
def nextPacket (s : RtmpPlayer) : Except Error (Option PlayerPacket) × RtmpPlayer :=
  dispatcher.next s

end RtmpPlayer

end Rtmp
