import Rtmp.Message.StreamControl
import Rtmp.Session.Connect

/-!
A player and the server it plays from.

* `Playable`: what can be put into the messages of the negotiation;
* `playRequest`: the request that the options of a player come to;
* `asked_to_play`: the two sides up to the request;
* **`play_agrees`**, **`play_refused`**: whatever the order in which they write and read, the player
  knows of the stream what the server has said of it, or that there is none.
-/

namespace Rtmp

open Amf0Value Link
open Eff (Steady)
open Relation (ReflTransGen)

/-! ### Statuses -/

section Status

variable {streamId : UInt32} {level code description : String}

/-- The object of a status. -/
def statusObject (level code description : String) : Amf0Value :=
  .object [("level", .string level), ("code", .string code), ("description", .string description)]

/-- A status, as a client reads it. -/
lemma commandOf_buildOnStatus
    (hlen : (buildOnStatus streamId level code description).payload.length < 2 ^ 24) :
    commandOf (buildOnStatus streamId level code description)
      = some [.string "onStatus", .number (.ofNat 0), .null, statusObject level code description] := by
  have htext : ∀ {key text : String}, (key, Amf0Value.string text) ∈ [("level", .string level),
      ("code", .string code), ("description", .string description)] →
        (Utf8.encode text).length < 2 ^ 32 := by
    intro key text hmem
    have hle : (Utf8.encode text).length
        ≤ (buildOnStatus streamId level code description).payload.length :=
      Amf.length_member_le (.tail _ (List.mem_singleton_self _)) hmem
    exact (hle.trans_lt hlen).trans (by norm_num)
  have hkeys : ∀ k ∈ ["level", "code", "description"], Key k := by decide +kernel
  simp only [List.forall_mem_cons, List.not_mem_nil, false_implies, implies_true, and_true] at hkeys
  obtain ⟨hlevel, hcode, hdescription⟩ := hkeys
  refine commandOf_eq_some.mpr ⟨rfl, Amf.decodeAll_encodeCommand (by decide) _ ⟨trivial, by decide⟩
    fun v hv => ?_⟩
  rw [List.mem_singleton.mp hv]
  exact ⟨⟨hlevel, htext (.head _), hcode, htext (.tail _ (.head _)), hdescription,
    htext (.tail _ (.tail _ (.head _))), trivial⟩, (by decide : 2 ≤ maxDecodeDepth)⟩

lemma infoText_statusObject (level code description : String) :
    infoText (statusObject level code description) "level" = level ∧
      infoText (statusObject level code description) "code" = code ∧
        infoText (statusObject level code description) "description" = description := by
  simp [infoText, statusObject, Amf0Value.get, Amf0Value.asStr]

/-- A status while the start of a stream is waited for. -/
lemma playStatus_statusObject : playStatus (some (statusObject level code description))
    = if code = statusPlayStart then .ok true
      else if code = statusPlayStreamNotFound ∨ level = "error" then
        .error (.rejected ("play refused: " ++ code ++ ": " ++ description))
      else .ok false := by
  obtain ⟨hlevel, hcode, hdescription⟩ := infoText_statusObject level code description
  simp only [playStatus, Option.map_some, Option.getD_some, hlevel, hcode, hdescription]

end Status

/-! ### Waiting for the start -/

section Wait

variable {n : ℕ} {isRecorded : Bool} {msg : Message} {z : LinkM Bool}

/-- The wait goes on with what it does with the message. -/
lemma hears_awaitPlayStart (h : ∀ l, (playStep isRecorded msg >>=
      Sum.elim (awaitPlayStart playStep n) pure).run l = z.run (heeding msg l)) :
    Hears (awaitPlayStart playStep (n + 1) isRecorded) msg z where
  heard l l' hhear := by
    rw [← h l', awaitPlayStart, Eff.run_bind_ok hhear, Eff.run_bind, Eff.run_bind]
    rcases (playStep isRecorded msg).run l' with ⟨e | r | r, l''⟩ <;> rfl
  starved l l' hhear := by rw [awaitPlayStart, Eff.run_bind_error hhear]

/-- An event that is not answered. -/
lemma hears_playControl {recorded : Bool} (htype : msg.msgTypeId = msgUserControl)
    (h : playControl isRecorded msg.payload = pure recorded) :
    Hears (awaitPlayStart playStep (n + 1) isRecorded) msg (awaitPlayStart playStep n recorded) := by
  refine hears_awaitPlayStart fun l => ?_
  rw [heeding_userControl htype, playStep, negotiate_userControl htype, if_pos htype, h]
  rfl

/-- A status. -/
lemma hears_playStatus {tx obj : Amf0Value} {info : Amf0Value}
    (h : commandOf msg = some [.string "onStatus", tx, obj, info]) :
    Hears (awaitPlayStart playStep (n + 1) isRecorded) msg
      (Eff.ofExcept (playStatus (some info)) >>= fun started =>
        if started then pure isRecorded else awaitPlayStart playStep n isRecorded) := by
  obtain ⟨htype, hdecode⟩ := commandOf_eq_some.mp h
  refine hears_awaitPlayStart fun l => ?_
  rw [heeding_command h, playStep, negotiate_command htype, if_neg (by rw [htype]; decide),
    if_pos htype,
    hdecode, Eff.ofExcept_ok_bind]
  show ((Eff.ofExcept (playStatus (some info)) >>= fun started =>
    pure (if started then .inr isRecorded else .inl isRecorded)) >>=
      Sum.elim (awaitPlayStart playStep n) pure).run l = _
  rw [Eff.bind_assoc]
  congr 2
  funext started
  cases started <;> rfl

end Wait

/-! ### The request -/

/-- The messages of a player have a length that a chunk header can hold. -/
structure Playable (u : RtmpUrl) (opts : PlayOptions) (serverCaps : ConnectCapabilities) : Prop
    extends Connectable u opts.capabilities serverCaps where
  play : (NetStreamCommand.toMessage 1
    (.play u.streamName opts.start opts.duration opts.reset)).payload.length < 2 ^ 24

/-- The request that the options of a player come to, with the defaults that a later one brings with
it. -/
def playRequest (u : RtmpUrl) (opts : PlayOptions) : PlayRequest where
  app := u.app
  streamName := u.streamName
  start :=
    if opts.duration.isSome ∨ opts.reset.isSome then some (opts.start.getD (.ofInt (-2)))
    else opts.start
  duration := if opts.reset.isSome then some (opts.duration.getD (.ofInt (-1))) else opts.duration
  reset := opts.reset
  bufferLengthMs := opts.bufferLengthMs
  tcUrl := u.tcUrl
  capabilities := opts.capabilities
  streamId := 1

section Play

variable {u : RtmpUrl} {opts : PlayOptions} {serverCaps : ConnectCapabilities} {γ : Type}

/-- The play command becomes the request. -/
lemma hears_play (h : Playable u opts serverCaps) (nextStreamId : UInt32) :
    Hears (waitFor (requestStep ⟨u.tcUrl, u.app, opts.capabilities⟩)
      ⟨nextStreamId, opts.bufferLengthMs⟩)
      (NetStreamCommand.toMessage 1 (.play u.streamName opts.start opts.duration opts.reset))
      (pure (.play (playRequest u opts))) := by
  let cmd : NetStreamCommand := .play u.streamName opts.start opts.duration opts.reset
  have hle : (Utf8.encode u.streamName).length ≤ (cmd.toMessage 1).payload.length :=
    Amf.length_argument_le (.head _)
  have hencodable : cmd.Encodable := (hle.trans_lt h.play).trans (by norm_num)
  have hcommand : commandOf (cmd.toMessage 1)
      = some (.string "play" :: .number (.ofNat 0) :: .null :: cmd.args) :=
    commandOf_eq_some.mpr
      ⟨rfl, Amf.decodeAll_encodeCommand (by decide : (Utf8.encode "play").length < 2 ^ 32) _
        ⟨trivial, by decide⟩ hencodable.args⟩
  have hparse : playCommand (.string "play" :: .number (.ofNat 0) :: .null :: cmd.args)
      = .ok (.play u.streamName (playRequest u opts).start (playRequest u opts).duration
        opts.reset) := by
    rw [playCommand, show (Amf0Value.string "play") = .string cmd.commandName from rfl,
      NetStreamCommand.parse_frame]
    rfl
  have hprepare : prepareCommand ⟨nextStreamId, opts.bufferLengthMs⟩
      (.string "play" :: .number (.ofNat 0) :: .null :: cmd.args)
        = pure (.inr (.play u.streamName (playRequest u opts).start (playRequest u opts).duration
          opts.reset)) := by
    refine (Eff.ofExcept_ok_bind "play" _).trans ((if_neg (by decide)).trans ((if_neg (by decide)).trans
      ((if_neg (by decide)).trans ((if_pos rfl).trans ?_))))
    rw [hparse, Eff.ofExcept_ok_bind]
  refine (hears_prepare hcommand).congr fun l => ?_
  rw [hprepare, Eff.pure_bind]
  rfl

/-- The buffer length that a player asks for is what the server keeps. -/
lemma asked_bufferLength {α : Type} {connect : ConnectRequest} {f : Unit → LinkM α}
    {g : SessionRequest → LinkM γ} (hf : Steady (f ())) (ms : Option UInt32) (nextStreamId : UInt32) :
    ReflTransGen Dialogue
      ⟨RtmpPlayer.askBufferLength 1 ms >>= f, waitFor (requestStep connect) ⟨nextStreamId, none⟩ >>= g,
        [], []⟩
      ⟨f (), waitFor (requestStep connect) ⟨nextStreamId, ms⟩ >>= g, [], []⟩ := by
  cases ms with
  | none => exact .refl
  | some ms =>
      have hlen : (buildUserControlSetBufferLength 1 ms).payload.length = 10 := by
        simp [buildUserControlSetBufferLength, userControlMessage, controlMessage]
      have htype : (buildUserControlSetBufferLength 1 ms).msgTypeId ≠ msgSetChunkSize :=
        (by decide : msgUserControl ≠ msgSetChunkSize)
      exact .head
        (.leftTells (tells_write_bind (sendable_control (hlen.trans_lt (by norm_num))) htype f) hf)
        (.single (.rightHears ((hears_setBufferLength 1 ms).bind g)))

/-- What a player does after its play command. -/
def RtmpPlayer.starting (u : RtmpUrl) (streamId : UInt32) (values : List Amf0Value) :
    LinkM (RtmpPlayer × ConnectCapabilities) := do
  let isRecorded ← waitForPlayStart
  let player ← Eff.gets (Link.session ⟨streamId, u.tcUrl, u.streamName, isRecorded, .ofNat 10⟩)
  pure (player, extractServerCaps values)

instance RtmpPlayer.steady_starting (u : RtmpUrl) (streamId : UInt32) (values : List Amf0Value) :
    Steady (RtmpPlayer.starting u streamId values) :=
  online_waitForPlayStart.steady fun _ => .map fun player => (player, extractServerCaps values)

/-- **The request**: when the player has sent its play command, the server has the request that its
options come to, and nothing is on the way any more. -/
theorem asked_to_play {g : SessionRequest → LinkM γ} (hg : ∀ req, Steady (g req))
    (h : Playable u opts serverCaps) :
    ReflTransGen Dialogue ⟨RtmpPlayer.connectWithOptions u opts,
      RtmpServer.serveSession serverCaps g, [], []⟩
      ⟨RtmpPlayer.starting u 1 (connectReply (.ofNat 1) serverCaps), g (.play (playRequest u opts)),
        [], []⟩ := by
  have hclient : RtmpPlayer.connectWithOptions u opts = (do
      announceChunkSize clientChunkSize
      write csidCommand (buildConnectWithCaps (.ofNat 1) u.app u.tcUrl flashVer opts.capabilities)
      let values ← waitForResult (.ofNat 1)
      write csidCommand (buildCreateStream (.ofNat 2))
      let streamId ← waitForCreateStreamResult (.ofNat 2)
      RtmpPlayer.askBufferLength streamId opts.bufferLengthMs
      write csidCommand
        (NetStreamCommand.toMessage streamId (.play u.streamName opts.start opts.duration opts.reset))
      RtmpPlayer.starting u streamId values : LinkM (RtmpPlayer × ConnectCapabilities)) := rfl
  have htx : Binary64.eq (.ofInt (-1)) (.ofNat 2) = false := by decide +kernel
  have hcommand : msgCommandAmf0 ≠ msgSetChunkSize := by decide
  rw [hclient, RtmpServer.serveSession_eq]
  refine (connected (fun _ => inferInstance) (fun _ => inferInstance) h.toConnectable).trans ?_
  refine .trans (asked inferInstance hg (commandOf_createStream _)
    prepareCommand_create (by decide +kernel) (by decide +kernel) hcommand) ?_
  refine .head (.leftHears ((hears_control htx ?_ (by decide)).create.bind _)) ?_
  · exact ⟨fun _ => by decide, fun h => absurd h (by decide)⟩
  refine .head (.leftHears ((hears_createStreamResult (by norm_num) 1).bind _)) ?_
  refine (asked_bufferLength inferInstance opts.bufferLengthMs _).trans ?_
  refine .head (.leftTells (tells_write_bind (sendable_command h.play) hcommand _) inferInstance) ?_
  exact .single (.rightHears ((hears_play h _).bind g))

/-- An event that the server tells the player of. -/
lemma told_event {α : Type} {n : ℕ} {isRecorded recorded : Bool} {msg : Message} {f : Bool → LinkM α}
    {g : Unit → LinkM γ} (hg : Steady (g ())) (htype : msg.msgTypeId = msgUserControl)
    (hlen : msg.payload.length < 2 ^ 24) (h : playControl isRecorded msg.payload = pure recorded) :
    ReflTransGen Dialogue
      ⟨awaitPlayStart playStep (n + 1) isRecorded >>= f, write csidProtocolControl msg >>= g, [], []⟩
      ⟨awaitPlayStart playStep n recorded >>= f, g (), [], []⟩ :=
  .head (.rightTells (tells_write_bind (sendable_control hlen) (htype.trans_ne (by decide)) g) hg)
    (.single (.leftHears ((hears_playControl htype h).bind f)))

/-- A status that it tells. -/
lemma told_status {α : Type} {n : ℕ} {isRecorded : Bool} {level code description : String}
    {x : LinkM Bool}
    {f : Bool → LinkM α} {g : Unit → LinkM γ} (hg : Steady (g ()))
    (hlen : (buildOnStatus 1 level code description).payload.length < 2 ^ 24)
    (h : (Eff.ofExcept (playStatus (some (statusObject level code description))) >>= fun started =>
      if started then pure isRecorded else awaitPlayStart playStep n isRecorded) = x) :
    ReflTransGen Dialogue ⟨awaitPlayStart playStep (n + 1) isRecorded >>= f,
        write csidCommand (buildOnStatus 1 level code description) >>= g, [], []⟩
      ⟨x >>= f, g (), [], []⟩ := by
  have htype : (buildOnStatus 1 level code description).msgTypeId ≠ msgSetChunkSize :=
    (by decide : msgCommandAmf0 ≠ msgSetChunkSize)
  refine .head (.rightTells (tells_write_bind (sendable_command hlen) htype g) hg) ?_
  rw [← h]
  exact .single (.leftHears ((hears_playStatus (commandOf_buildOnStatus hlen)).bind f))

/-- A server that takes what is to be played, as recorded or not. -/
def RtmpServer.playing (recorded : Bool) : SessionRequest → LinkM (Option (PlayRequest × PlaySession))
  | .publish _ => pure none
  | .play req => do
      let s ← req.acceptMode recorded
      pure (some (req, s))

instance RtmpServer.steady_playing (recorded : Bool) (req : SessionRequest) :
    Steady (RtmpServer.playing recorded req) := by
  cases req with
  | publish req => exact (Eff.Online.pure none).toSteady
  | play req => exact .map fun s => some (req, s)

namespace PlayRequest

variable {α : Type} {req : PlayRequest} {n : ℕ} {isRecorded : Bool} {f : Bool → LinkM α}

/-- The last of what a server tells a player, and the session. -/
def started (req : PlayRequest) : LinkM PlaySession := do
  write csidCommand (buildOnStatus req.streamId "status" statusPlayStart
    ("Started playing " ++ req.streamName))
  Eff.gets (Link.session ⟨req.app, req.streamName, req.streamId⟩)

/-- The same after the reset that was asked for. -/
def restarted (req : PlayRequest) : LinkM PlaySession := do
  if req.reset = some true then
    write csidCommand (buildOnStatus req.streamId "status" statusPlayReset
      ("Playing and resetting " ++ req.streamName))
  req.started

instance steady_started (req : PlayRequest) : Steady req.started := .bind

instance steady_restarted (req : PlayRequest) : Steady req.restarted := by
  unfold restarted
  infer_instance

lemma acceptMode_eq (req : PlayRequest) (recorded : Bool) : req.acceptMode recorded = (do
    if recorded then write csidProtocolControl (buildUserControlStreamIsRecorded req.streamId)
    write csidProtocolControl (buildUserControlStreamBegin req.streamId)
    req.restarted) := rfl

/-- The messages have a length that a chunk header can hold, and go to the first stream. -/
structure Announceable (req : PlayRequest) : Prop where
  streamId : req.streamId = 1
  reset : req.reset = some true → (buildOnStatus 1 "status" statusPlayReset
    ("Playing and resetting " ++ req.streamName)).payload.length < 2 ^ 24
  start : (buildOnStatus 1 "status" statusPlayStart
    ("Started playing " ++ req.streamName)).payload.length < 2 ^ 24

/-- The session of an accepted request. -/
abbrev taken (req : PlayRequest) : LinkM (Option (PlayRequest × PlaySession)) :=
  Eff.gets (Link.session ⟨req.app, req.streamName, req.streamId⟩) >>= fun s => pure (some (req, s))

lemma told_started (h : req.Announceable) :
    ReflTransGen Dialogue
      ⟨awaitPlayStart playStep (n + 1) isRecorded >>= f, req.started >>= fun s => pure (some (req, s)),
        [], []⟩
      ⟨f isRecorded, req.taken, [], []⟩ := by
  have hstarted : req.started >>= (fun s => pure (some (req, s)))
      = write csidCommand (buildOnStatus 1 "status" statusPlayStart
        ("Started playing " ++ req.streamName)) >>= fun _ => req.taken := by
    rw [started, Eff.bind_assoc, taken, h.streamId]
  have hstatus : (Eff.ofExcept (playStatus (some (statusObject "status" statusPlayStart
      ("Started playing " ++ req.streamName)))) >>= fun started =>
        if started then pure isRecorded else awaitPlayStart playStep n isRecorded)
          = pure isRecorded := by
    rw [playStatus_statusObject, if_pos rfl]
    rfl
  rw [hstarted]
  exact told_status (.map fun s => some (req, s)) h.start hstatus

lemma told_restarted (h : req.Announceable) :
    ReflTransGen Dialogue
      ⟨awaitPlayStart playStep (n + 2) isRecorded >>= f, req.restarted >>= fun s =>
        pure (some (req, s)),
        [], []⟩
      ⟨f isRecorded, req.taken, [], []⟩ := by
  by_cases hreset : req.reset = some true
  · have hrestarted : req.restarted >>= (fun s => pure (some (req, s)))
        = write csidCommand (buildOnStatus 1 "status" statusPlayReset
          ("Playing and resetting " ++ req.streamName)) >>= fun _ =>
            req.started >>= fun s => pure (some (req, s)) := by
      rw [restarted, if_pos hreset, Eff.bind_assoc, h.streamId]
    have hstatus : (Eff.ofExcept (playStatus (some (statusObject "status" statusPlayReset
        ("Playing and resetting " ++ req.streamName)))) >>= fun started =>
          if started then pure isRecorded else awaitPlayStart playStep (n + 1) isRecorded)
        = awaitPlayStart playStep (n + 1) isRecorded := by
      rw [playStatus_statusObject, if_neg (by decide), if_neg (by decide)]
      rfl
    rw [hrestarted]
    exact (told_status (.map fun s => some (req, s)) (h.reset hreset) hstatus).trans (told_started h)
  · rw [restarted, if_neg hreset]
    exact told_started h

/-- What a server says of a stream that it has. -/
lemma Announceable.told_accepted (h : req.Announceable) (recorded : Bool) :
    ReflTransGen Dialogue
      ⟨awaitPlayStart playStep (n + 4) false >>= f, RtmpServer.playing recorded (.play req), [], []⟩
      ⟨f recorded, req.taken, [], []⟩ := by
  have hsteady : Steady (req.restarted >>= fun s => pure (some (req, s))) := .map fun s => some (req, s)
  have hparse : UserControlEvent.parse (buildUserControlStreamBegin 1).payload = .ok (.streamBegin 1) :=
    UserControlEvent.parse_built (.streamBegin 1) fun _ _ h => by cases h
  have hbegin : ∀ {n isRecorded}, ReflTransGen Dialogue
      ⟨awaitPlayStart playStep (n + 3) isRecorded >>= f,
        write csidProtocolControl (buildUserControlStreamBegin 1) >>= fun _ =>
          req.restarted >>= fun s => pure (some (req, s)), [], []⟩
      ⟨f isRecorded, req.taken, [], []⟩ := fun {n isRecorded} =>
    (told_event hsteady rfl (by decide) (by rw [playControl, hparse])).trans (told_restarted h)
  have hplaying : RtmpServer.playing recorded (.play req)
      = req.acceptMode recorded >>= fun s => pure (some (req, s)) := rfl
  rw [hplaying, acceptMode_eq]
  cases recorded with
  | false =>
      rw [if_neg Bool.false_ne_true, Eff.bind_assoc, h.streamId]
      exact hbegin
  | true =>
      have hrecorded : UserControlEvent.parse (buildUserControlStreamIsRecorded 1).payload
          = .ok (.streamIsRecorded 1) := UserControlEvent.parse_built (.streamIsRecorded 1) fun _ _
          h => by cases h
      rw [if_pos rfl]
      simp only [Eff.bind_assoc, h.streamId]
      exact (told_event inferInstance rfl (by decide) (by rw [playControl, hrecorded])).trans hbegin

end PlayRequest

/-- **Agreement on a stream**: however the two sides are interleaved, a player and a server that
takes what is to be played end up with the same stream.  The server has the request that the options
of the player come to, the player has the block that the server advertises and knows whether the
stream is recorded, and nothing is left on the way. -/
theorem play_agrees (h : Playable u opts serverCaps) (hreq : (playRequest u opts).Announceable)
    (recorded : Bool) :
    Concludes (RtmpPlayer.connectWithOptions u opts)
      (RtmpServer.serveSession serverCaps (RtmpServer.playing recorded))
      (fun a => .ok (a.session ⟨1, u.tcUrl, u.streamName, recorded, .ofNat 10⟩, serverCaps.advertised))
      (fun b => .ok (some (playRequest u opts, b.session ⟨u.app, u.streamName, 1⟩))) [] [] := by
  have hdialogue := (asked_to_play (RtmpServer.steady_playing recorded) h).trans
    (hreq.told_accepted recorded)
  refine concludes_of_dialogue hdialogue ⟨fun l => ?_, fun _ => nofun⟩ ⟨fun _ => rfl, fun _ => nofun⟩
    nofun nofun
  rw [extractServerCaps_connectReply]
  rfl

/-- A recorded stream that is played from the start, with the playlist reset. -/
theorem play_agrees_recorded :
    Concludes
      (RtmpPlayer.connectWithOptions ⟨"vod", "film", "rtmp://host/vod"⟩
        ⟨none, none, some true, some 3000, .default⟩)
      (RtmpServer.serveSession .default (RtmpServer.playing true))
      (fun a => .ok (a.session ⟨1, "rtmp://host/vod", "film", true, .ofNat 10⟩,
        ConnectCapabilities.default.advertised))
      (fun b => .ok (some (⟨"vod", "film", some (.ofInt (-2)), some (.ofInt (-1)), some true, some 3000,
        "rtmp://host/vod", .default, 1⟩, b.session ⟨"vod", "film", 1⟩))) [] [] :=
  play_agrees (u := ⟨"vod", "film", "rtmp://host/vod"⟩)
    ⟨⟨⟨by decide, by decide, by decide, by decide⟩, ⟨by decide, by decide, by decide, by decide⟩,
      by decide +kernel, by decide +kernel⟩, by decide +kernel⟩
    ⟨rfl, fun _ => by decide +kernel, by decide +kernel⟩ true

/-- A refusal is told before it is a failure. -/
lemma tells_reject {req : PlayRequest} {reason : String} (hlen : (buildOnStatus req.streamId "error"
      statusPlayStreamNotFound reason).payload.length < 2 ^ 24) :
    Tells (Eff.attempt (req.reject reason)) csidCommand
      (buildOnStatus req.streamId "error" statusPlayStreamNotFound reason)
      (pure (.error (.rejected reason))) := by
  have htype : (buildOnStatus req.streamId "error" statusPlayStreamNotFound reason).msgTypeId
      ≠ msgSetChunkSize := (by decide : msgCommandAmf0 ≠ msgSetChunkSize)
  refine ⟨sendable_command hlen, fun l => ?_⟩
  have hwrite := (tells_write (sendable_command hlen) htype).run l
  rw [Eff.run_attempt, PlayRequest.reject, Eff.run_attempt_bind, hwrite]
  rfl

/-- **A refusal is noticed**: however the two sides are interleaved, a player that asks a server
with nothing to play, whatever it does with publishers, ends in the refusal, and the server goes on
without it. -/
theorem play_refused (h : Playable u opts serverCaps) (handler : PublishRequest → LinkM γ)
    [∀ req, Steady (handler req)] :
    Concludes (RtmpPlayer.connectWithOptions u opts) (RtmpServer.serve serverCaps handler)
      (fun _ => .error (.rejected "play refused: NetStream.Play.StreamNotFound: publish-only endpoint"))
      (fun _ => .ok none) [] [] := by
  have hlen : (buildOnStatus 1 "error" statusPlayStreamNotFound
      "publish-only endpoint").payload.length < 2 ^ 24 := by decide +kernel
  have hstatus :
    playStatus (some (statusObject "error" statusPlayStreamNotFound "publish-only endpoint"))
      = .error (.rejected "play refused: NetStream.Play.StreamNotFound: publish-only endpoint") := by
    rw [playStatus_statusObject, if_neg (by decide), if_pos (.inl rfl)]
    decide +kernel
  have hdialogue := asked_to_play (steady_serving : ∀ req, Steady (RtmpServer.serving handler req)) h
  have hrefused := hdialogue.tail (.rightTells ((tells_reject hlen).bind _) inferInstance)
  have hheard := hrefused.tail (.leftHears ((hears_playStatus (commandOf_buildOnStatus hlen)).bind _))
  refine concludes_of_dialogue hheard ⟨fun l => ?_, fun _ => nofun⟩ ⟨fun _ => rfl, fun _ => nofun⟩
    nofun nofun
  rw [hstatus]
  rfl

/-- A server that takes every publication. -/
theorem play_refused_live :
    Concludes
      (RtmpPlayer.connectWithOptions ⟨"live", "cam", "rtmp://host/live"⟩
        ⟨none, none, none, none, .default⟩)
      (RtmpServer.serve .default PublishRequest.accept)
      (fun _ => .error (.rejected "play refused: NetStream.Play.StreamNotFound: publish-only endpoint"))
      (fun _ => .ok none) [] [] :=
  play_refused (u := ⟨"live", "cam", "rtmp://host/live"⟩)
    ⟨⟨⟨by decide, by decide, by decide, by decide⟩, ⟨by decide, by decide, by decide, by decide⟩,
      by decide +kernel, by decide +kernel⟩, by decide +kernel⟩ PublishRequest.accept

end Play

end Rtmp
