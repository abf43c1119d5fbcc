import Rtmp.Session.Connect

/-!
A client that publishes and the server it publishes to.

* `Publishable`: what can be put into the messages of the negotiation;
* `requested`: the two sides up to the request that the server hands out;
* **`publish_agrees`**: whatever the order in which they write and read, a client that publishes and
  a server that takes it end up with the same stream.
-/

namespace Rtmp

open Amf0Value Link
open Eff (Steady replay)
open Duplex (Net EndsIn)
open Relation (ReflTransGen)

/-- The messages of a publication have a length that a chunk header can hold. -/
structure Publishable (u : RtmpUrl) (publishType : String) (caps serverCaps : ConnectCapabilities) :
    Prop
    extends Connectable u caps serverCaps where
  release : (buildReleaseStream (.ofNat 2) u.streamName).payload.length < 2 ^ 24
  prepare : (buildFcPublish (.ofNat 3) u.streamName).payload.length < 2 ^ 24
  publish : (buildPublish (.ofNat 5) 1 u.streamName publishType).payload.length < 2 ^ 24
  status : (buildOnStatus 1 "status" statusPublishStart
    ("Started publishing " ++ u.streamName)).payload.length < 2 ^ 24

namespace Publishable

variable {u : RtmpUrl} {publishType : String} {caps serverCaps : ConnectCapabilities}

/-- A text of the publish command. -/
lemma text (h : Publishable u publishType caps serverCaps) {text : String}
    (hmem : Amf0Value.string text ∈ [.string u.streamName, .string publishType]) :
    (Utf8.encode text).length < 2 ^ 32 := by
  have hle : (Utf8.encode text).length
      ≤ (buildPublish (.ofNat 5) 1 u.streamName publishType).payload.length :=
    Amf.length_argument_le hmem
  exact (hle.trans_lt h.publish).trans (by norm_num)

lemma streamName (h : Publishable u publishType caps serverCaps) :
    (Utf8.encode u.streamName).length < 2 ^ 32 := h.text (.head _)

lemma kind (h : Publishable u publishType caps serverCaps) : (Utf8.encode publishType).length
    < 2 ^ 32 :=
  h.text (.tail _ (.head _))

end Publishable

section Publish

variable {u : RtmpUrl} {publishType : String} {caps serverCaps : ConnectCapabilities} {γ : Type}

/-- The publish command, as the server reads it. -/
lemma commandOf_publish {streamId : UInt32} {tx : Binary64}
    (hname : (Utf8.encode u.streamName).length < 2 ^ 32)
    (htype : (Utf8.encode publishType).length < 2 ^ 32) :
    commandOf (buildPublish tx streamId u.streamName publishType)
      = some [.string "publish", .number tx, .null, .string u.streamName, .string publishType] := by
  have hscalar : 1 ≤ maxDecodeDepth := by decide
  refine commandOf_eq_some.mpr ⟨rfl, Amf.decodeAll_encodeCommand (by decide) tx ⟨trivial, hscalar⟩ ?_⟩
  intro v hv
  rcases List.mem_pair.mp hv with rfl | rfl
  · exact ⟨hname, hscalar⟩
  · exact ⟨htype, hscalar⟩

/-- A command that names a stream, as the server reads it. -/
lemma commandOf_named {name text : String} {tx : Binary64} (hname : (Utf8.encode name).length < 2 ^ 32)
    (htext : (Utf8.encode text).length < 2 ^ 32) :
    commandOf (sessionCommand name tx .null [.string text])
      = some [.string name, .number tx, .null, .string text] :=
  commandOf_sessionCommand hname tx fun v hv => by
    rw [List.mem_singleton.mp hv]
    exact ⟨htext, (by decide : 1 ≤ maxDecodeDepth)⟩

/-- The result of a command that the server does nothing about. -/
lemma commandOf_done (tx : Binary64) : commandOf (sessionCommand "_result" tx .null [.undefined])
    = some [.string "_result", .number tx, .null, .undefined] :=
  commandOf_sessionCommand (by decide) tx fun v hv => by
    rw [List.mem_singleton.mp hv]
    exact ⟨trivial, (by decide : 1 ≤ maxDecodeDepth)⟩

/-- The publish command becomes the request. -/
lemma hears_publish {connect : ConnectRequest} {st : Preparing} {tx : Binary64}
    (hname : (Utf8.encode u.streamName).length < 2 ^ 32)
    (htype : (Utf8.encode publishType).length < 2 ^ 32) :
    Hears (waitFor (requestStep connect) st) (buildPublish tx 1 u.streamName publishType)
      (pure (.publish ⟨connect.app, u.streamName, publishType, connect.tcUrl, connect.capabilities,
        1⟩)) := by
  have hprepare : prepareCommand st
      [.string "publish", .number tx, .null, .string u.streamName, .string publishType]
        = pure (.inr (.publish u.streamName publishType)) :=
    (Eff.ofExcept_ok_bind "publish" _).trans ((if_neg (by decide)).trans
      ((if_neg (by decide)).trans ((if_pos rfl).trans (Eff.ofExcept_ok_bind _ _))))
  refine (hears_prepare (commandOf_publish hname htype)).congr fun l => ?_
  rw [hprepare, Eff.pure_bind]
  rfl

/-- What a client does after its publish command. -/
def RtmpClient.started (u : RtmpUrl) (streamId : UInt32) (values : List Amf0Value) :
    LinkM (RtmpClient × ConnectCapabilities) := do
  waitForPublishStart
  let client ← Eff.gets (Link.session ⟨streamId, .ofNat 10, u.tcUrl⟩)
  pure (client, extractServerCaps values)

instance RtmpClient.steady_started (u : RtmpUrl) (streamId : UInt32) (values : List Amf0Value) :
    Steady (RtmpClient.started u streamId values) :=
  online_waitForPublishStart.steady fun _ => .map fun client => (client, extractServerCaps values)

/-- **The request**: when the client has sent its publish command, the server has the request that
it made out of it, and nothing is on the way any more. -/
theorem requested {g : SessionRequest → LinkM γ} (hg : ∀ req, Steady (g req))
    (h : Publishable u publishType caps serverCaps) :
    ReflTransGen Dialogue
      ⟨RtmpClient.connectParsed u publishType caps, RtmpServer.serveSession serverCaps g, [], []⟩
      ⟨RtmpClient.started u 1 (connectReply (.ofNat 1) serverCaps),
        g (.publish ⟨u.app, u.streamName, publishType, u.tcUrl, caps, 1⟩), [], []⟩ := by
  have hclient : RtmpClient.connectParsed u publishType caps = (do
      announceChunkSize clientChunkSize
      write csidCommand (buildConnectWithCaps (.ofNat 1) u.app u.tcUrl flashVer caps)
      let values ← waitForResult (.ofNat 1)
      write csidCommand (buildReleaseStream (.ofNat 2) u.streamName)
      write csidCommand (buildFcPublish (.ofNat 3) u.streamName)
      write csidCommand (buildCreateStream (.ofNat 4))
      let streamId ← waitForCreateStreamResult (.ofNat 4)
      write csidCommand (buildPublish (.ofNat 5) streamId u.streamName publishType)
      RtmpClient.started u streamId values : LinkM (RtmpClient × ConnectCapabilities)) := by
    simp only [RtmpClient.connectParsed, RtmpClient.requestPublish, RtmpClient.started, Eff.bind_assoc,
      Eff.pure_bind]
  have htx : Binary64.eq (.ofInt (-1)) (.ofNat 4) = false := by decide +kernel
  have hcommand : msgCommandAmf0 ≠ msgSetChunkSize := by decide
  rw [hclient, RtmpServer.serveSession_eq]
  refine (connected (fun _ => inferInstance) (fun _ => inferInstance) h.toConnectable).trans ?_
  refine .trans (asked inferInstance hg (commandOf_named (by decide) h.streamName)
    (prepareCommand_release (.inl rfl)) h.release (by decide +kernel) hcommand) ?_
  refine .trans (asked inferInstance hg (commandOf_named (by decide) h.streamName)
    (prepareCommand_release (.inr rfl)) h.prepare (by decide +kernel) hcommand) ?_
  refine .trans (asked inferInstance hg (commandOf_createStream _)
    prepareCommand_create (by decide +kernel) (by decide +kernel) hcommand) ?_
  -- The chunk size of the server, the two results that are not waited for, and the one that is.
  refine .head (.leftHears ((hears_control htx ?_ (by decide)).create.bind _)) ?_
  · exact ⟨fun _ => by decide, fun h => absurd h (by decide)⟩
  refine .head (.leftHears ((hears_other (by norm_num) (by norm_num) (by decide) htx
    (commandOf_done (.ofNat 2))).create.bind _)) ?_
  refine .head (.leftHears ((hears_other (by norm_num) (by norm_num) (by decide) htx
    (commandOf_done (.ofNat 3))).create.bind _)) ?_
  refine .head (.leftHears ((hears_createStreamResult (by norm_num) 1).bind _)) ?_
  refine .head (.leftTells (tells_write_bind (sendable_command h.publish) hcommand _) inferInstance) ?_
  exact .single (.rightHears ((hears_publish h.streamName h.kind).bind g))

/-- A user-control event is taken for the start of the publication. -/
lemma hears_start {msg : Message} (h : msg.msgTypeId = msgUserControl) :
    Hears waitForPublishStart msg (pure ()) where
  heard l l' hhear := by
    have hsettles : settlesPublish msg = pure true := if_pos h
    show (awaitPublishStart (19 + 1)).run l = _
    rw [awaitPublishStart, Eff.run_attempt_bind, hhear, heeding_userControl h]
    dsimp only
    rw [hsettles, Eff.pure_bind, if_pos rfl]
  starved l l' hhear := by
    show (awaitPublishStart (19 + 1)).run l = _
    rw [awaitPublishStart, Eff.run_attempt_bind, hhear]
    rfl

/-- **The publication is taken**: when the server has said so, it is left with what it does then,
and the client is left with its session; all that is on the way is the status that the stream has
started. -/
theorem publication_taken {handler : PublishRequest → LinkM γ} {then' : LinkM (Option γ)}
    [∀ req, Steady (handler req)] [Steady then'] (h : Publishable u publishType caps serverCaps)
    (haccept : RtmpServer.serving handler
      (.publish ⟨u.app, u.streamName, publishType, u.tcUrl, caps, 1⟩) = (do
      write csidProtocolControl (buildUserControlStreamBegin 1)
      write csidCommand (buildOnStatus 1 "status" statusPublishStart
        ("Started publishing " ++ u.streamName))
      then')) :
    ReflTransGen Dialogue
      ⟨RtmpClient.connectParsed u publishType caps, RtmpServer.serve serverCaps handler, [], []⟩
      ⟨do
        let client ← Eff.gets (Link.session ⟨1, .ofNat 10, u.tcUrl⟩)
        pure (client, extractServerCaps (connectReply (.ofNat 1) serverCaps)),
        then', [],
        [buildOnStatus 1 "status" statusPublishStart ("Started publishing " ++ u.streamName)]⟩ := by
  have htype : (buildOnStatus 1 "status" statusPublishStart
      ("Started publishing " ++ u.streamName)).msgTypeId ≠ msgSetChunkSize :=
    (by decide : msgCommandAmf0 ≠ msgSetChunkSize)
  have hdialogue := requested (steady_serving : ∀ req, Steady (RtmpServer.serving handler req)) h
  rw [haccept] at hdialogue
  have hbegin := hdialogue.tail
    (.rightTells (tells_write_bind (sendable_control (by decide)) (by decide) _) inferInstance)
  have hstarted := hbegin.tail (.leftHears ((hears_start rfl).bind _))
  exact hstarted.tail (.rightTells (tells_write_bind (sendable_command h.status) htype _) inferInstance)

/-- **Agreement on a publication**: however the two sides are interleaved, a client that publishes and a
server that takes what is published end up with the same stream.  The server has the names that the
client asked for and its block, the client has the block that the server advertises, and all that is
left on the way is the status that the stream has started. -/
theorem publish_agrees (h : Publishable u publishType caps serverCaps) :
    Concludes (RtmpClient.connectParsed u publishType caps)
      (RtmpServer.serve serverCaps fun req => req.accept >>= fun s => pure (req, s))
      (fun a => .ok (a.session ⟨1, .ofNat 10, u.tcUrl⟩, serverCaps.advertised))
      (fun b => .ok (some (⟨u.app, u.streamName, publishType, u.tcUrl, caps, 1⟩,
        b.session ⟨u.app, u.streamName, publishType, 1, []⟩)))
      [] [buildOnStatus 1 "status" statusPublishStart ("Started publishing " ++ u.streamName)] := by
  have haccept : RtmpServer.serving (fun req => req.accept >>= fun s => pure (req, s))
      (.publish ⟨u.app, u.streamName, publishType, u.tcUrl, caps, 1⟩) = (do
        write csidProtocolControl (buildUserControlStreamBegin 1)
        write csidCommand (buildOnStatus 1 "status" statusPublishStart
          ("Started publishing " ++ u.streamName))
        let s ← Eff.gets (Link.session ⟨u.app, u.streamName, publishType, 1, []⟩)
        pure (some (⟨u.app, u.streamName, publishType, u.tcUrl, caps, 1⟩, s))) := by
    simp only [RtmpServer.serving, PublishRequest.accept, Eff.bind_assoc, Eff.pure_bind]
  refine concludes_of_dialogue (publication_taken h haccept) ⟨fun l => ?_, fun _ => nofun⟩
    ⟨fun _ => rfl, fun _ => nofun⟩ nofun ?_
  · rw [extractServerCaps_connectReply]
    rfl
  · intro msg hmsg
    rw [List.mem_singleton.mp hmsg]
    exact (by decide : msgCommandAmf0 ≠ msgSetChunkSize)

/-- A camera, and a server that knows one format. -/
theorem publish_agrees_cam :
    Concludes (RtmpClient.connectParsed ⟨"live", "cam", "rtmp://host/live"⟩ "live" .default)
      (RtmpServer.serve { ConnectCapabilities.default with fourccList := ["hvc1"] } fun req =>
        req.accept >>= fun s => pure (req, s))
      (fun a => .ok (a.session ⟨1, .ofNat 10, "rtmp://host/live"⟩,
        ({ ConnectCapabilities.default with fourccList := ["hvc1"] } : ConnectCapabilities).advertised))
      (fun b => .ok (some (⟨"live", "cam", "live", "rtmp://host/live", .default, 1⟩,
        b.session ⟨"live", "cam", "live", 1, []⟩)))
      [] [buildOnStatus 1 "status" statusPublishStart ("Started publishing " ++ "cam")] :=
  publish_agrees (u := ⟨"live", "cam", "rtmp://host/live"⟩)
    ⟨⟨⟨by decide, by decide, by decide, by decide⟩, ⟨by decide, by decide, by decide, by decide⟩,
      by decide +kernel, by decide +kernel⟩, by decide +kernel, by decide +kernel, by decide +kernel,
      by decide +kernel⟩

end Publish

end Rtmp
