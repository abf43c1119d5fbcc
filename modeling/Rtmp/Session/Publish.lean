import Rtmp.Flv.Audio
import Rtmp.Flv.Video
import Rtmp.Session.Walk
import Rtmp.SharedObject

/-!
The server's side of a publish session: what `RtmpSession::next_packet` makes of each message.

* `StreamPacket`: what a call returns;
* `RtmpSession.handleMessage`: the dispatch on the message type;
* `RtmpSession.dispatcher`: the session as a `Dispatcher`; `RtmpSession.nextPacket` is its loop.
-/

namespace Rtmp

open Flv

/-! ### Commands of a stream -/

/-- What a command of an established stream amounts to. -/
inductive CommandEvent where
  | command (cmd : NetStreamCommand)
  | call (c : CallCommand)
  | callReply (success : Bool) (transactionId : Binary64) (values : List Amf0Value)
  deriving Repr

/-- The session, over for its reading side. -/
def Session.close {τ : Type} (s : Session τ) : Session τ := { s with ended := true }

/-- End the session. -/
def Session.finish {τ : Type} : SessionM τ Unit := Eff.modify Session.close

/-- A command by its name: the ones in `teardown` end the session, control commands, replies and
remote calls are passed on, and the rest of the protocol's own commands is ignored. -/
def Session.classifyCommand {τ : Type} (teardown : List String) (values : List Amf0Value) :
    SessionM τ (Option CommandEvent) :=
  match commandName values with
  | some name =>
      if name ∈ teardown then do
        Session.finish
        pure none
      else do
        match ← Eff.ofExcept (NetStreamCommand.parse values) with
        | some cmd => pure (some (.command cmd))
        | none =>
            if name = "_result" ∨ name = "_error" then
              pure (some (.callReply (name = "_result") (commandTransaction (.ofNat 0) values) values))
            else if isReservedCommandName name then pure none
            else pure ((CallCommand.parse values).map .call)
  | none => do
      let cmd ← Eff.ofExcept (NetStreamCommand.parse values)
      pure (cmd.map .command)

/-- What holds of parsing and of ending the session holds of the classification. -/
lemma Session.Closed.classifyCommand {τ : Type} {Q : ∀ {α : Type}, SessionM τ α → Prop} (h : Closed Q)
    (names : List String) (values : List Amf0Value) :
    Q (Session.classifyCommand names values : SessionM τ (Option CommandEvent)) := by
  rw [Session.classifyCommand]
  cases commandName values with
  | none => exact h.parsed _ _
  | some name =>
      refine Closed.ite (h.bind (h.note (fun _ => true) id) fun _ => h.pure _) ?_
      refine h.bind (h.ofExcept _) fun cmd => ?_
      cases cmd with
      | some cmd => exact h.pure _
      | none => exact Closed.ite (h.pure _) (Closed.ite (h.pure _) (h.pure _))

/-! ### The session -/

/-- One item of a publish session. -/
inductive StreamPacket where
  | audio (timestamp : UInt32) (tag : AudioTag)
  | video (timestamp : UInt32) (tag : VideoTag)
  | metadata (value : Amf0Value)
  | dataFrame (handler : String) (value : Amf0Value)
  | dataFrameCleared (handler : String)
  | command (cmd : NetStreamCommand)
  | call (c : CallCommand)
  | sharedObject (so : SharedObjectMessage Amf0Value)
  | callReply (success : Bool) (transactionId : Binary64) (values : List Amf0Value)
  deriving Repr

def CommandEvent.toStreamPacket : CommandEvent → StreamPacket
  | command cmd => .command cmd
  | call c => .call c
  | callReply success transactionId values => .callReply success transactionId values

/-- What a publish session keeps besides its connection. -/
structure PublishState where
  app : String
  streamName : String
  publishType : String
  streamId : UInt32
  /-- The stored data frames, in the order they were first set. -/
  dataFrames : List (String × Amf0Value)

/-- A publish session. -/
abbrev RtmpSession := Session PublishState

namespace RtmpSession

/-- Replace the first frame of a handler, or add one. -/
def storeDataFrame (handler : String) (value : Amf0Value) :
    List (String × Amf0Value) → List (String × Amf0Value)
  | [] => [(handler, value)]
  | (h, stored) :: frames =>
      if h = handler then (h, value) :: frames
      else (h, stored) :: storeDataFrame handler value frames

/-- Update the stored data frames. -/
def modifyFrames (f : List (String × Amf0Value) → List (String × Amf0Value)) :
    SessionM PublishState Unit :=
  Eff.modify fun s => { s with own := { s.own with dataFrames := f s.own.dataFrames } }

/-- Whether a data message that is no control is metadata: it is named so, or has no name. -/
def isMeta (values : List Amf0Value) : Bool :=
  match commandName values with
  | some name => name = "onMetaData"
  | none => true

/-- A data message: the controls keep the stored frames, and bare metadata is stored too. -/
def dispatchDataValues (values : List Amf0Value) : SessionM PublishState (Option StreamPacket) :=
  match parseDataFrame values with
  | some (.set handler value) => do
      modifyFrames (storeDataFrame handler value)
      pure (some (if handler = "onMetaData" then .metadata value else .dataFrame handler value))
  | some (.clear handler) => do
      modifyFrames (List.filter fun frame => frame.1 ≠ handler)
      pure (some (.dataFrameCleared handler))
  | none =>
      match metadataObject values with
      | none => pure none
      | some value => do
          modifyFrames fun frames =>
            if isMeta values then storeDataFrame "onMetaData" value frames else frames
          pure (some (.metadata value))

/-- The commands that end a publish session. -/
def teardown : List String := ["closeStream", "deleteStream", "FCUnpublish", "close"]

/-- A command message. -/
def handleCommandValues (values : List Amf0Value) : SessionM PublishState (Option StreamPacket) := do
  let ev ← Session.classifyCommand teardown values
  pure (ev.map CommandEvent.toStreamPacket)

/-- The dispatch on the message type. -/
def handleMessage (msg : Message) : SessionM PublishState (Option StreamPacket) :=
  if msg.msgTypeId = msgAudio then do
    let tag ← Eff.ofExcept (parseAudio msg.payload)
    pure (some (.audio msg.timestamp tag))
  else if msg.msgTypeId = msgVideo then do
    let tag ← Eff.ofExcept (parseVideo msg.payload)
    pure (some (.video msg.timestamp tag))
  else if msg.msgTypeId = msgDataAmf0 then do
    let values ← Eff.ofExcept (Amf.decodeAll msg.payload)
    dispatchDataValues values
  else if msg.msgTypeId = msgDataAmf3 then do
    let values ← Eff.ofExcept (Amf3.decodeMessageToAmf0 msg.payload)
    dispatchDataValues values
  else if msg.msgTypeId = msgCommandAmf0 then do
    let values ← Eff.ofExcept (Amf.decodeAll msg.payload)
    handleCommandValues values
  else if msg.msgTypeId = msgCommandAmf3 then do
    let values ← Eff.ofExcept (Amf3.decodeMessageToAmf0 msg.payload)
    handleCommandValues values
  else if msg.msgTypeId = msgSharedObjectAmf0 ∨ msg.msgTypeId = msgSharedObjectAmf3 then do
    let so ← Eff.ofExcept (parseSharedObject msg)
    pure (some (.sharedObject so))
  else if msg.msgTypeId = msgAggregate then do
    Session.handleAggregate msg
    pure none
  else if msg.msgTypeId = msgSetChunkSize then do
    Session.handleSetChunkSize msg
    pure none
  else if msg.msgTypeId = msgWindowAckSize then do
    Session.handleWindowAckSize msg
    pure none
  else if msg.msgTypeId = msgSetPeerBandwidth then do
    Session.handleSetPeerBandwidth msg
    pure none
  else
    -- Acknowledgements, user control and everything unknown
    pure none

/-! ### What holds of the handlers -/

open Session

lemma dispatchDataValues_closed {Q : ∀ {α : Type}, SessionM PublishState α → Prop} (h : Closed Q)
    (values : List Amf0Value) : Q (dispatchDataValues values) := by
  have hframes : ∀ f, Q (modifyFrames f) := fun f =>
    h.note id fun own => { own with dataFrames := f own.dataFrames }
  rw [dispatchDataValues]
  rcases parseDataFrame values with _ | ⟨handler, value⟩ | handler
  · rcases metadataObject values with _ | value
    · exact h.pure _
    · exact h.bind (hframes _) fun _ => h.pure _
  · exact h.bind (hframes _) fun _ => h.pure _
  · exact h.bind (hframes _) fun _ => h.pure _

/-- **The walk** through the dispatch. -/
theorem handleMessage_handled {Q P : ∀ {α : Type}, SessionM PublishState α → Prop} {msg : Message}
    (h : Handled msg Q P) : P (handleMessage msg) := by
  have hdata : ∀ x : Except Error (List Amf0Value), Q (Eff.ofExcept x >>= dispatchDataValues) :=
    fun x => h.closed.bind (h.closed.ofExcept x) fun _ => dispatchDataValues_closed h.closed _
  have hcommand : ∀ x : Except Error (List Amf0Value), Q (Eff.ofExcept x >>= handleCommandValues) :=
    fun x => h.closed.bind (h.closed.ofExcept x) fun _ =>
      h.closed.bind (h.closed.classifyCommand _ _) fun _ => h.closed.pure _
  refine Handled.ite (fun ht => h.of_type ht rfl (h.closed.parsed _ _)) fun _ => ?_
  refine Handled.ite (fun ht => h.of_type ht rfl (h.closed.parsed _ _)) fun _ => ?_
  refine Handled.ite (fun ht => h.of_type ht rfl (hdata _)) fun _ => ?_
  refine Handled.ite (fun ht => h.of_type ht rfl (hdata _)) fun _ => ?_
  refine Handled.ite (fun ht => h.of_type ht rfl (hcommand _)) fun _ => ?_
  refine Handled.ite (fun ht => h.of_type ht rfl (hcommand _)) fun _ => ?_
  refine Handled.ite (fun ht => ht.elim (fun ht => h.of_type ht rfl (h.closed.parsed _ _))
    fun ht => h.of_type ht rfl (h.closed.parsed _ _)) fun _ => ?_
  refine Handled.ite (fun ht => h.map _ (h.aggregate ht)) fun haggregate => ?_
  refine Handled.ite (fun ht => h.map _ (h.setChunkSize ht)) fun hchunk => ?_
  refine Handled.ite (fun ht => h.map _ (h.windowAckSize ht)) fun hwindow => ?_
  refine Handled.ite (fun ht => h.map _ (h.setPeerBandwidth ht)) fun hbandwidth => ?_
  refine h.other ?_ (h.closed.pure _)
  simp [isManaged, hchunk, hwindow, hbandwidth, haggregate]

/-- The failures of the reader that mean the peer is gone. -/
def closes : Error → Bool
  | .io kind => kind.isClosed
  | _ => false

/-- A publish session; the end of the stream is not noted, the next call will meet it again. -/
def dispatcher : Dispatcher PublishState StreamPacket where
  onSub := handleMessage
  onWire := handleMessage
  closes := closes
  latch := id
  onSub_detached msg := handleMessage_handled (detached_handled msg)
  onWire_detached msg := handleMessage_handled (detached_handled msg)
  onSub_queues msg := handleMessage_handled (queues_handled msg)
  latch_withWire _ _ _ := rfl

/-- The next item of the stream, or nothing at its end. -/
def nextPacket (s : RtmpSession) : Except Error (Option StreamPacket) × RtmpSession :=
  dispatcher.next s

end RtmpSession

end Rtmp
