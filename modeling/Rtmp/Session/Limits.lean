import Rtmp.Chunk.Walk
import Rtmp.Session.Alike
import Rtmp.Session.Negotiation
import Rtmp.Session.Rounds

/-!
The limits a peer sets, and what a connection makes of them.

* `chunkSizeOf`, `windowOf`, `limitOf`: what a message sets;
* `Limits.negotiate`, `Limits.ignore`, `Limits.serve`: what becomes of the limits when a message is read
  by a wait of the negotiation, by the wait for the start of a publication, and by a session;
* `Link.Heeds`: a run of a connection that is being set up, message by message, each read where the one
  before it left off; every wait is one;
* `Dispatcher.limits_rounds`: the limits after some rounds of a session are those after the messages
  they served.
-/

namespace Rtmp

/-! ### What a message sets -/

/-- The chunk size a message announces: bit 31 is reserved. -/
def chunkSizeOf (msg : Message) : Option ChunkSize :=
  if msg.msgTypeId = msgSetChunkSize then
    (readU32Be msg.payload).toOption.map fun size => .clamp (size &&& 0x7FFFFFFF).toNat
  else none

/-- The acknowledgement window a message sets. -/
def windowOf (msg : Message) : Option UInt32 :=
  if msg.msgTypeId = msgWindowAckSize then (readU32Be msg.payload).toOption else none

/-- The bandwidth limit a message sets, with its type. -/
def limitOf (msg : Message) : Option (UInt32 × UInt8) :=
  if msg.msgTypeId = msgSetPeerBandwidth then (parseSetPeerBandwidth msg.payload).toOption else none

/-- What a reader goes by of what its peer announced. -/
structure Limits where
  chunkSize : ChunkSize
  window : UInt32

def ChunkReader.limits (r : ChunkReader) : Limits := ⟨r.chunkSize, r.windowAckSize⟩

namespace Limits

/-- The limits of a new connection. -/
def initial : Limits := ⟨.default, 0⟩

/-- A wait of the negotiation adopts a bandwidth limit as the window, whatever its type. -/
def negotiate (l : Limits) (msg : Message) : Limits :=
  ⟨(chunkSizeOf msg).getD l.chunkSize, (windowOf msg).getD ((limitOf msg).elim l.window Prod.fst)⟩

/-- The wait for the start of a publication adopts nothing. -/
def ignore (l : Limits) (_ : Message) : Limits := l

/-- A session asks its limiter. -/
def serve (l : Limits × PeerBandwidthLimiter) (msg : Message) : Limits × PeerBandwidthLimiter :=
  (⟨(chunkSizeOf msg).getD l.1.chunkSize,
    (windowOf msg).getD
      ((limitOf msg).elim l.1.window fun p => (l.2.apply p.1 p.2).1.getD l.1.window)⟩,
    (limitOf msg).elim l.2 fun p => (l.2.apply p.1 p.2).2)

variable {msg : Message}

lemma negotiate_other (l : Limits) (hchunk : msg.msgTypeId ≠ msgSetChunkSize)
    (hwindow : msg.msgTypeId ≠ msgWindowAckSize) (hlimit : limitOf msg = none) :
    l.negotiate msg = l := by
  rw [negotiate, chunkSizeOf, windowOf, if_neg hchunk, if_neg hwindow, hlimit]
  rfl

lemma serve_other (l : Limits × PeerBandwidthLimiter) (hchunk : msg.msgTypeId ≠ msgSetChunkSize)
    (hwindow : msg.msgTypeId ≠ msgWindowAckSize) (hlimit : msg.msgTypeId ≠ msgSetPeerBandwidth) :
    serve l msg = l := by
  rw [serve, chunkSizeOf, windowOf, limitOf, if_neg hchunk, if_neg hwindow, if_neg hlimit]
  rfl

end Limits

namespace ChunkReader

/-- The readers differ at most in the limits and in how much was acknowledged. -/
structure SameWire (r r' : ChunkReader) : Prop where
  stream : r'.stream = r.stream
  states : r'.states = r.states
  receivedBytes : r'.receivedBytes = r.receivedBytes

lemma SameWire.of_eq {r r' : ChunkReader} (h : r' = r) : SameWire r r' := by
  subst h
  exact ⟨rfl, rfl, rfl⟩

/-- No step of reading touches the limits. -/
lemma limits_closed : Closed fun x => Eff.Along (fun r r' => r'.limits = r.limits) x := by
  have htrans : IsTrans ChunkReader fun r r' => r'.limits = r.limits :=
    ⟨fun _ _ _ h h' => Eq.trans h' h⟩
  have hrefl : Std.Refl fun r r' : ChunkReader => r'.limits = r.limits := ⟨fun _ => rfl⟩
  refine ⟨.pure, fun hx hf => hx.bind hf, fun n r => ?_, fun csid text r => ?_, fun _ _ _ => rfl,
    .gets, .fail _⟩
  · rw [run_readExactCounted]
    rcases readExact n r.stream with ⟨_ | bs, rest⟩ <;> rfl
  · rw [run_requireState]
    cases r.states csid <;> rfl

/-- Reading a message leaves the limits alone. -/
lemma limits_readMessage (r : ChunkReader) : (readMessage.run r).2.limits = r.limits :=
  limits_closed.readChunks (r.stream.length + 1) r

end ChunkReader

/-! ### Setting up -/

namespace Link

open Relation (ReflTransGen)

variable {α β σ : Type} {rule : Limits → Message → Limits} {l l' : Link}

/-- One thing that happens to a connection that is being set up: something that is not reading, a
reading that fails, or one of a message, which changes the limits by the rule before anything else
is read. -/
inductive Step (rule : Limits → Message → Limits) : Link → Link → Prop
  | works {l l' : Link} (heard : l'.heard = l.heard) (reader : l'.reader = l.reader) : Step rule l l'
  | starves {l l' : Link} {e : Error} (hread : ChunkReader.readMessage.run l.reader
      = (.error e, l'.reader))
      (heard : l'.heard = l.heard) : Step rule l l'
  | hears {l l' : Link} (msg : Message) {r : ChunkReader}
      (hread : ChunkReader.readMessage.run l.reader = (.ok msg, r))
      (heard : l'.heard = l.heard ++ [msg])
      (wire : r.SameWire l'.reader) (limits : l'.reader.limits = rule l.reader.limits msg) :
      Step rule l l'

/-- Without a message the limits stay. -/
lemma Step.limits_of_heard (h : Step rule l l') (hheard : l'.heard = l.heard) :
    l'.reader.limits = l.reader.limits := by
  cases h with
  | works heard reader => rw [reader]
  | starves hread heard =>
      have hlimits := ChunkReader.limits_readMessage l.reader
      rwa [hread] at hlimits
  | hears msg hread heard wire limits =>
      rw [heard] at hheard
      exact absurd hheard (by simp)

/-- Any number of them. -/
def Heeds (rule : Limits → Message → Limits) : Link → Link → Prop := ReflTransGen (Step rule)

instance : Std.Refl (Heeds rule) := ⟨fun _ => .refl⟩

instance : IsTrans Link (Heeds rule) := ⟨fun _ _ _ h h' => ReflTransGen.trans h h'⟩

/-- The run lemma: the limits are those after the messages that were heard. -/
lemma Heeds.limits (h : Heeds rule l l') :
    ∃ msgs, l'.heard = l.heard ++ msgs ∧ l'.reader.limits = msgs.foldl rule l.reader.limits := by
  induction h with
  | refl => exact ⟨[], (List.append_nil _).symm, rfl⟩
  | tail _ hstep ih =>
      obtain ⟨msgs, hheard, hlimits⟩ := ih
      have hsame := hstep.limits_of_heard
      cases hstep with
      | works heard reader => exact ⟨msgs, heard.trans hheard, (hsame heard).trans hlimits⟩
      | starves hread heard => exact ⟨msgs, heard.trans hheard, (hsame heard).trans hlimits⟩
      | hears msg hread heard wire limits =>
          refine ⟨msgs ++ [msg], ?_, ?_⟩
          · rw [heard, hheard, List.append_assoc]
          · rw [limits, hlimits, List.foldl_append, List.foldl_cons, List.foldl_nil]

/-- After the handshake the limits are those of a new connection. -/
lemma Heeds.limits_opened {stream : List ReadEvent} (h : Heeds rule (opened stream) l) :
    l.reader.limits = l.heard.foldl rule .initial := by
  obtain ⟨msgs, hheard, hlimits⟩ := h.limits
  rw [hlimits, hheard]
  rfl

/-- The operation leaves the reader and what was heard alone. -/
def Rests (l l' : Link) : Prop := l'.reader = l.reader ∧ l'.heard = l.heard

instance : Std.Refl Rests := ⟨fun _ => ⟨rfl, rfl⟩⟩

instance : IsTrans Link Rests := ⟨fun _ _ _ h h' => ⟨h'.1.trans h.1, h'.2.trans h.2⟩⟩

lemma rests_onWriter (x : WriterM α) : Eff.Along Rests (onWriter x) := fun _ => ⟨rfl, rfl⟩

lemma rests_announceChunkSize (size : UInt32) : Eff.Along Rests (announceChunkSize size) :=
  (rests_onWriter _).bind fun _ => rests_onWriter _

lemma heeds_of_rests {x : LinkM α} (hx : Eff.Along Rests x) : Eff.Along (Heeds rule) x :=
  fun l => .single (.works (hx l).2 (hx l).1)

/-- Handling `msg`, the operation changes the limits by the rule, and nothing else of what is read. -/
def Takes (rule : Limits → Message → Limits) (msg : Message) (x : LinkM α) : Prop :=
  Eff.Along (fun l l' => l'.heard = l.heard ∧ l.reader.SameWire l'.reader ∧
    l'.reader.limits = rule l.reader.limits msg) x

/-- A message that was read and is being handled. -/
lemma heeds_hear {x : Message → LinkM α} {f : α → LinkM β} (hx : ∀ msg, Takes rule msg (x msg))
    (hf : ∀ a, Eff.Along (Heeds rule) (f a)) :
    Eff.Along (Heeds rule) (hear >>= fun msg => x msg >>= f) := by
  intro l
  have hlimits := ChunkReader.limits_readMessage l.reader
  rcases hread : ChunkReader.readMessage.run l.reader with ⟨e | msg, r⟩
  · have hfails : hear.run l = (.error e, { l with reader := r }) :=
      Eff.run_bind_error (Eff.run_zoom hread)
    rw [Eff.run_bind_error hfails]
    exact .single (.starves hread rfl)
  · have hheard : hear.run l = (.ok msg, { l with reader := r, heard := l.heard ++ [msg] }) :=
      Eff.run_bind_ok (Eff.run_zoom hread)
    rw [hread] at hlimits
    rw [Eff.run_bind_ok hheard]
    obtain ⟨hsame, hwire, hrule⟩ := hx msg { l with reader := r, heard := l.heard ++ [msg] }
    have hstep : Step rule l ((x msg).run { l with reader := r, heard := l.heard ++ [msg] }).2 := by
      refine .hears msg hread hsame hwire (hrule.trans ?_)
      change rule r.limits msg = rule l.reader.limits msg
      rw [hlimits]
    rw [Eff.run_bind]
    rcases hrun : (x msg).run { l with reader := r, heard := l.heard ++ [msg] } with ⟨e | a, l'⟩
    · rw [hrun] at hstep
      exact .single hstep
    · rw [hrun] at hstep
      exact ReflTransGen.head hstep (hf a l')

lemma heeds_await {step : σ → Message → LinkM (σ ⊕ β)} (h : ∀ st msg, Takes rule msg (step st msg))
    (rounds : ℕ) (st : σ) : Eff.Along (Heeds rule) (await step rounds st) := by
  induction rounds generalizing st with
  | zero => exact .fail _
  | succ rounds ih =>
      refine heeds_hear (h st) fun r => ?_
      cases r with
      | inl st => exact ih st
      | inr b => exact .pure b

lemma heeds_waitFor {step : σ → Message → LinkM (σ ⊕ β)} (h : ∀ st msg, Takes rule msg (step st msg))
    (st : σ) : Eff.Along (Heeds rule) (waitFor step st) :=
  fun l => heeds_await h (l.reader.stream.length + 1) st l

/-- What every wait but one does with protocol control. -/
lemma takes_negotiate {msg : Message} {st : σ} {other : LinkM (σ ⊕ β)} (h : Eff.Along Rests other) :
    Takes Limits.negotiate msg (negotiate msg st other) := by
  intro l
  rw [negotiate]
  by_cases hchunk : msg.msgTypeId = msgSetChunkSize
  · rw [if_pos hchunk]
    have hother : Limits.negotiate l.reader.limits msg
        = ⟨(chunkSizeOf msg).getD l.reader.chunkSize, l.reader.windowAckSize⟩ := by
      rw [Limits.negotiate, windowOf, limitOf, hchunk]
      rfl
    rw [hother, chunkSizeOf, if_pos hchunk]
    cases readU32Be msg.payload <;> exact ⟨rfl, ⟨rfl, rfl, rfl⟩, rfl⟩
  rw [if_neg hchunk]
  by_cases hwindow : msg.msgTypeId = msgWindowAckSize
  · rw [if_pos hwindow]
    have hother : Limits.negotiate l.reader.limits msg
        = ⟨l.reader.chunkSize, (windowOf msg).getD l.reader.windowAckSize⟩ := by
      rw [Limits.negotiate, chunkSizeOf, limitOf, hwindow]
      rfl
    rw [hother, windowOf, if_pos hwindow]
    cases readU32Be msg.payload <;> exact ⟨rfl, ⟨rfl, rfl, rfl⟩, rfl⟩
  rw [if_neg hwindow]
  -- the negotiation checks the length where the rule looks at the parser
  by_cases hlimit : msg.msgTypeId = msgSetPeerBandwidth ∧ 4 ≤ msg.payload.length
  · rw [if_pos hlimit]
    have hparse : limitOf msg
        = some (u32OfBe msg.payload, (msg.payload[4]?).getD peerBandwidthLimitHard) := by
      rw [limitOf, if_pos hlimit.1, parseSetPeerBandwidth, if_neg (Nat.not_lt.mpr hlimit.2)]
      rfl
    have hread : readU32Be (msg.payload.take 4) = .ok (u32OfBe msg.payload) := by
      rw [readU32Be, if_neg (by rw [List.length_take]; omega), u32OfBe, u32OfBe, List.take_take]
      rfl
    have hother : Limits.negotiate l.reader.limits msg
        = ⟨l.reader.chunkSize, u32OfBe msg.payload⟩ := by
      rw [Limits.negotiate, chunkSizeOf, windowOf, if_neg hchunk, if_neg hwindow, hparse]
      rfl
    rw [hother, hread]
    exact ⟨rfl, ⟨rfl, rfl, rfl⟩, rfl⟩
  · rw [if_neg hlimit]
    have hparse : limitOf msg = none := by
      rw [limitOf]
      split_ifs with htype
      · rw [parseSetPeerBandwidth, if_pos (Nat.lt_of_not_le fun hle => hlimit ⟨htype, hle⟩)]
        rfl
      · rfl
    rw [Limits.negotiate_other _ hchunk hwindow hparse]
    exact ⟨(h l).2, .of_eq (h l).1, congrArg _ (h l).1⟩

end Link

open Link

/-! ### The server -/

lemma rests_connectCommand (serverCaps : ConnectCapabilities) (values : List Amf0Value) :
    Eff.Along Rests (connectCommand serverCaps values) := by
  have hanswer : ∀ txId, Eff.Along Rests (answerConnect txId serverCaps) := fun txId =>
    (rests_onWriter _).bind fun _ => (rests_onWriter _).bind fun _ => (rests_onWriter _).bind fun _ =>
      (rests_onWriter _).bind fun _ => rests_announceChunkSize _
  refine (Eff.Along.ofExcept _).bind fun name => .ite (.fail _) ?_
  cases values[2]? with
  | none => exact .fail _
  | some cmdObj => exact (hanswer _).bind fun _ => .pure _

lemma rests_prepareCommand (st : Preparing) (values : List Amf0Value) :
    Eff.Along Rests (prepareCommand st values) := by
  refine (Eff.Along.ofExcept _).bind fun name => .ite ((rests_onWriter _).bind fun _ => .pure _) ?_
  refine .ite ((rests_onWriter _).bind fun _ => .pure _) ?_
  refine .ite ((Eff.Along.ofExcept _).bind fun _ => .pure _) ?_
  exact .ite ((Eff.Along.ofExcept _).bind fun _ => .pure _) (.pure _)

/-- The server heeds every message up to the request. -/
theorem heeds_driveUntilRequest (serverCaps : ConnectCapabilities) :
    Eff.Along (Heeds Limits.negotiate) (driveUntilRequest serverCaps) := by
  have hconnect : Eff.Along (Heeds Limits.negotiate) (awaitConnect serverCaps) := by
    refine heeds_waitFor (fun () msg => takes_negotiate ?_) ()
    refine .ite ((Eff.Along.ofExcept _).bind fun values => ?_) (.pure _)
    exact (rests_connectCommand serverCaps values).bind fun _ => .pure _
  have hrequest : ∀ connect, Eff.Along (Heeds Limits.negotiate) (awaitRequest connect) := by
    refine fun connect => heeds_waitFor (fun st msg => takes_negotiate ?_) _
    refine .ite (.pure _) (.ite ((Eff.Along.ofExcept _).bind fun values => ?_) (.pure _))
    refine (rests_prepareCommand st values).bind fun r => ?_
    cases r with
    | inl st => exact .pure _
    | inr cmd => exact .pure _
  exact hconnect.bind hrequest

lemma PublishRequest.rests_accept (req : PublishRequest) : Eff.Along Rests req.accept :=
  (rests_onWriter _).bind fun _ => (rests_onWriter _).bind fun _ => .gets _

lemma PlayRequest.rests_acceptMode (req : PlayRequest) (recorded : Bool) :
    Eff.Along Rests (req.acceptMode recorded) := by
  have hwrite : ∀ csid msg, Eff.Along Rests (write csid msg) := fun _ _ => rests_onWriter _
  have hlast : ∀ u : PUnit, Eff.Along Rests (do
      write csidCommand (buildOnStatus req.streamId "status" statusPlayStart
        ("Started playing " ++ req.streamName))
      Eff.gets (Link.session (⟨req.app, req.streamName, req.streamId⟩ : PlayState))) :=
    fun _ => (hwrite _ _).bind fun _ => .gets _
  rw [acceptMode]
  have hreset : ∀ u : PUnit, Eff.Along Rests (do
      write csidProtocolControl (buildUserControlStreamBegin req.streamId)
      if req.reset = some true then
        write csidCommand (buildOnStatus req.streamId "status" statusPlayReset
          ("Playing and resetting " ++ req.streamName))
      write csidCommand (buildOnStatus req.streamId "status" statusPlayStart
        ("Started playing " ++ req.streamName))
      Eff.gets (Link.session (⟨req.app, req.streamName, req.streamId⟩ : PlayState))) :=
    fun _ => (hwrite _ _).bind fun _ => .ite ((hwrite _ _).bind hlast) (hlast ⟨⟩)
  exact .ite ((hwrite _ _).bind hreset) (hreset ⟨⟩)

/-! ### The clients -/

lemma heeds_waitForResult (expectedTx : Binary64) :
    Eff.Along (Heeds Limits.negotiate) (waitForResult expectedTx) := by
  refine heeds_waitFor (fun () msg => takes_negotiate ?_) ()
  refine .ite ((Eff.Along.ofExcept _).bind fun values => .ite (.pure _) ?_) (.pure _)
  exact .ite (.fail _) (.pure _)

lemma heeds_waitForCreateStreamResult (expectedTx : Binary64) :
    Eff.Along (Heeds Limits.negotiate) (waitForCreateStreamResult expectedTx) := by
  refine (heeds_waitForResult expectedTx).bind fun values => ?_
  cases lastNumber values with
  | none => exact .fail _
  | some sid => exact .pure _

lemma heeds_write (rule : Limits → Message → Limits) (csid : UInt32) (msg : Message) :
    Eff.Along (Heeds rule) (write csid msg) := heeds_of_rests (rests_onWriter _)

/-- A publisher heeds every message up to its publish command. -/
theorem RtmpClient.heeds_requestPublish (u : RtmpUrl) (publishType : String)
    (caps : ConnectCapabilities) :
    Eff.Along (Heeds Limits.negotiate) (requestPublish u publishType caps) := by
  refine (heeds_of_rests (rests_announceChunkSize _)).bind fun _ => (heeds_write _ _ _).bind fun _ => ?_
  refine (heeds_waitForResult _).bind fun _ => (heeds_write _ _ _).bind fun _ => ?_
  refine (heeds_write _ _ _).bind fun _ => (heeds_write _ _ _).bind fun _ => ?_
  exact (heeds_waitForCreateStreamResult _).bind fun _ => (heeds_write _ _ _).bind fun _ => .pure _

/-- It does not heed those it reads while it waits for the start. -/
theorem heeds_waitForPublishStart : Eff.Along (Heeds Limits.ignore) waitForPublishStart := by
  have hsettles : ∀ msg, Eff.Along Rests (settlesPublish msg) := fun msg =>
    .ite (.pure _) (.ite ((Eff.Along.ofExcept _).bind fun _ => .pure _) (.pure _))
  have hheard : Eff.Along (Heeds Limits.ignore) hear := by
    intro l
    have hlimits := ChunkReader.limits_readMessage l.reader
    rcases hread : ChunkReader.readMessage.run l.reader with ⟨e | msg, r⟩
    · have hfails : hear.run l = (.error e, { l with reader := r }) :=
        Eff.run_bind_error (Eff.run_zoom hread)
      rw [hfails]
      exact .single (.starves hread rfl)
    · have hheard : hear.run l = (.ok msg, { l with reader := r, heard := l.heard ++ [msg] }) :=
        Eff.run_bind_ok (Eff.run_zoom hread)
      rw [hread] at hlimits
      rw [hheard]
      exact .single (.hears msg hread rfl (.of_eq rfl) hlimits)
  have hrounds : ∀ rounds, Eff.Along (Heeds Limits.ignore) (awaitPublishStart rounds) := by
    intro rounds
    induction rounds with
    | zero => exact .pure _
    | succ rounds ih =>
        refine (Eff.Along.attempt hheard).bind fun out => ?_
        cases out with
        | ok msg => exact (heeds_of_rests (hsettles msg)).bind fun _ => .ite (.pure _) ih
        | error e =>
            cases e with
            | io kind => exact .ite (.pure _) (.fail _)
            | _ => exact .fail _
  exact hrounds 20

/-- A player heeds every message up to the start. -/
theorem RtmpPlayer.heeds_connectWithOptions (u : RtmpUrl) (opts : PlayOptions) :
    Eff.Along (Heeds Limits.negotiate) (connectWithOptions u opts) := by
  have hask : ∀ streamId ms, Eff.Along Rests (askBufferLength streamId ms) := by
    intro streamId ms
    cases ms with
    | none => exact .pure _
    | some ms => exact rests_onWriter _
  have hcontrol : ∀ isRecorded payload, Eff.Along Rests (playControl isRecorded payload) := by
    intro isRecorded payload
    rw [playControl]
    split
    · exact .pure _
    · exact (rests_onWriter _).bind fun _ => .pure _
    · exact .pure _
  have hother : ∀ isRecorded values, Eff.Along Rests (
      let name := (commandName values).getD ""
      if name = "onStatus" then do
        let started ← Eff.ofExcept (playStatus values[3]?)
        pure (if started then .inr isRecorded else .inl isRecorded)
      else if name = "_error" then Eff.fail (errorReply values)
      else pure (.inl isRecorded) : LinkM (Bool ⊕ Bool)) := fun isRecorded values =>
    .ite ((Eff.Along.ofExcept _).bind fun _ => .pure _) (.ite (.fail _) (.pure _))
  have hstart : Eff.Along (Heeds Limits.negotiate) waitForPlayStart := by
    -- fifty rounds in the source, any number here
    have hrounds : ∀ {step : Bool → Message → LinkM (Bool ⊕ Bool)} (rounds : ℕ) (isRecorded : Bool),
        (∀ isRecorded msg, Takes Limits.negotiate msg (step isRecorded msg)) →
        Eff.Along (Heeds Limits.negotiate) (awaitPlayStart step rounds isRecorded) := by
      intro step rounds isRecorded h
      induction rounds generalizing isRecorded with
      | zero => exact .fail _
      | succ rounds ih =>
          refine heeds_hear (h isRecorded) fun r => ?_
          cases r with
          | inl isRecorded => exact ih isRecorded
          | inr isRecorded => exact .pure _
    refine hrounds 50 false fun isRecorded msg => takes_negotiate ?_
    refine .ite ((hcontrol _ _).bind fun _ => .pure _) (.ite ?_ (.pure _))
    exact (Eff.Along.ofExcept _).bind fun values => hother isRecorded values
  refine (heeds_of_rests (rests_announceChunkSize _)).bind fun _ => (heeds_write _ _ _).bind fun _ => ?_
  refine (heeds_waitForResult _).bind fun _ => (heeds_write _ _ _).bind fun _ => ?_
  refine (heeds_waitForCreateStreamResult _).bind fun _ => (heeds_of_rests (hask _ _)).bind fun _ => ?_
  exact (heeds_write _ _ _).bind fun _ => hstart.bind fun _ => (Eff.Along.gets _).bind fun _ => .pure _

/-! ### Sessions -/

section Sessions

open Session

variable {τ α : Type}

/-- The limits of a session, and its limiter. -/
def Session.limits (s : Session τ) : Limits × PeerBandwidthLimiter := (s.reader.limits, s.peerBw)

/-- The operation leaves the limits alone. -/
def Session.KeepsLimits (s t : Session τ) : Prop := t.limits = s.limits

instance : Std.Refl (KeepsLimits (τ := τ)) := ⟨fun _ => rfl⟩

instance : IsTrans (Session τ) KeepsLimits := ⟨fun _ _ _ hst htu => Eq.trans htu hst⟩

/-- Handling a message changes the limits as the message says. -/
lemma Session.limits_handled (msg : Message) : Handled (τ := τ) msg (Eff.Along KeepsLimits)
    (Eff.Along fun s t => t.limits = Limits.serve s.limits msg) where
  closed := ⟨fun x => .ofExcept x, fun hx hf => hx.bind hf, fun _ _ => rfl, fun _ _ _ => rfl⟩
  other hmanaged hx s := by
    simp only [isManaged, decide_eq_false_iff_not, not_or] at hmanaged
    rw [Limits.serve_other _ hmanaged.1 hmanaged.2.1 hmanaged.2.2.1]
    exact hx s
  map f hx s := by
    have hs := hx s
    rw [Eff.run_bind]
    rcases hrun : Eff.run _ s with ⟨e | a, t⟩ <;> rw [hrun] at hs <;> exact hs
  setChunkSize hmsg s := by
    have hrule : Limits.serve s.limits msg
        = (⟨(chunkSizeOf msg).getD s.reader.chunkSize, s.reader.windowAckSize⟩, s.peerBw) := by
      rw [Limits.serve, windowOf, limitOf, hmsg]
      rfl
    change ((handleSetChunkSize msg).run s).2.limits = _
    rw [hrule, chunkSizeOf, if_pos hmsg, handleSetChunkSize]
    cases readU32Be msg.payload <;> rfl
  windowAckSize hmsg s := by
    have hrule : Limits.serve s.limits msg
        = (⟨s.reader.chunkSize, (windowOf msg).getD s.reader.windowAckSize⟩, s.peerBw) := by
      rw [Limits.serve, chunkSizeOf, limitOf, hmsg]
      rfl
    change ((handleWindowAckSize msg).run s).2.limits = _
    rw [hrule, windowOf, if_pos hmsg, handleWindowAckSize]
    cases readU32Be msg.payload <;> rfl
  setPeerBandwidth hmsg s := by
    have hrule : Limits.serve s.limits msg
        = (⟨s.reader.chunkSize, (limitOf msg).elim s.reader.windowAckSize fun p =>
              (s.peerBw.apply p.1 p.2).1.getD s.reader.windowAckSize⟩,
            (limitOf msg).elim s.peerBw fun p => (s.peerBw.apply p.1 p.2).2) := by
      rw [Limits.serve, chunkSizeOf, windowOf, hmsg]
      rfl
    change ((handleSetPeerBandwidth msg).run s).2.limits = _
    rw [hrule, limitOf, if_pos hmsg, handleSetPeerBandwidth]
    -- a body that is too short leaves everything as it is
    rcases parseSetPeerBandwidth msg.payload with e | p
    · rfl
    · have hsome : (Except.ok p : Except Error (UInt32 × UInt8)).toOption = some p := rfl
      have happly : (Session.applyPeerBandwidth p.1 p.2).run s = (.ok (s.peerBw.apply p.1 p.2).1,
          { s with peerBw := (s.peerBw.apply p.1 p.2).2 }) := rfl
      rw [Eff.run_ofExcept_ok_bind, Eff.run_bind_ok happly, hsome, Option.elim_some, Option.elim_some]
      cases (s.peerBw.apply p.1 p.2).1 <;> rfl
  aggregate hmsg s := by
    change ((handleAggregate msg).run s).2.limits = _
    rw [Limits.serve_other _ (by rw [hmsg]; decide) (by rw [hmsg]; decide) (by rw [hmsg]; decide),
      handleAggregate]
    cases parseAggregate msg <;> rfl

/-- What an acknowledgement leaves alone. -/
lemma Session.keepsLimits_maybeSendAck : Eff.Along KeepsLimits (maybeSendAck : SessionM τ Unit) := by
  have hdue : Eff.Along KeepsLimits (onReader (Eff.modifyGet ChunkReader.ackDue) : SessionM τ _) := by
    intro s
    have hsame : s.reader.ackDue.2.limits = s.reader.limits := by
      rw [ChunkReader.ackDue]
      split_ifs <;> rfl
    exact congrArg (fun l => (l, s.peerBw)) hsame
  refine hdue.bind fun seq => ?_
  cases seq with
  | none => exact .pure _
  | some seq => exact fun _ => rfl

namespace Dispatcher

/-- The handlers change the limits as the messages say. -/
structure Heeding (d : Dispatcher τ α) : Prop where
  onSub : ∀ msg s, ((d.onSub msg).run s).2.limits = Limits.serve s.limits msg
  onWire : ∀ msg s, ((d.onWire msg).run s).2.limits = Limits.serve s.limits msg
  latch : ∀ s, (d.latch s).limits = s.limits

variable {d : Dispatcher τ α}

/-- A round changes the limits as the message it serves says. -/
lemma Heeding.round (hd : d.Heeding) (s : Session τ) :
    (d.round s).2.limits
      = (s.serving.map Prod.fst).toList.foldl Limits.serve s.limits := by
  have hread : ∀ {out r}, ChunkReader.readMessage.run s.reader = (out, r) →
      (s.withReader r).limits = s.limits := by
    intro out r hread
    have hlimits := ChunkReader.limits_readMessage s.reader
    rw [hread] at hlimits
    exact congrArg (fun l => (l, s.peerBw)) hlimits
  have hrounded := d.rounded s
  generalize s.serving = served at hrounded ⊢
  generalize d.round s = p at hrounded ⊢
  cases hrounded with
  | ended => rfl
  | @sub msg rest =>
      rw [snd_settle]
      exact hd.onSub msg (s.withQueue rest)
  | @read msg r hopen hqueue hmsg =>
      rw [snd_settle, serve, Eff.run_bind]
      have hack := keepsLimits_maybeSendAck (s.withReader r)
      obtain ⟨_, t, hrun, -⟩ := Bookkeeping.maybeSendAck (s.withReader r)
      rw [hrun] at hack ⊢
      have hwire := hd.onWire msg t
      rw [show t.limits = s.limits from Eq.trans hack (hread hmsg)] at hwire
      exact hwire
  | @closes e r hopen hqueue hmsg => exact (hd.latch _).trans (hread hmsg)
  | @fails e r hopen hqueue hmsg => exact hread hmsg

/-- **The run lemma**: the limits are those after the messages that were served. -/
theorem Heeding.limits_rounds (hd : d.Heeding) (n : ℕ) (s : Session τ) :
    (d.rounds n s).limits = (d.served n s).foldl Limits.serve s.limits := by
  induction n with
  | zero => rfl
  | succ n ih => rw [rounds, hd.round, served, List.foldl_append, ih]

end Dispatcher

end Sessions

lemma RtmpSession.heeding : dispatcher.Heeding where
  onSub msg := handleMessage_handled (Session.limits_handled msg)
  onWire msg := handleMessage_handled (Session.limits_handled msg)
  latch _ := rfl

lemma PlaySession.heeding : dispatcher.Heeding where
  onSub msg := handleEventMessage_handled (Session.limits_handled msg)
  onWire msg := handleEventMessage_handled (Session.limits_handled msg)
  latch _ := rfl

lemma RtmpClient.heeding : dispatcher.Heeding where
  onSub msg := handleSub_handled (Session.limits_handled msg)
  onWire msg := handleWire_handled (Session.limits_handled msg)
  latch _ := rfl

lemma RtmpPlayer.heeding : dispatcher.Heeding where
  onSub msg := handleMessage_handled (Session.limits_handled msg)
  onWire msg := handleMessage_handled (Session.limits_handled msg)
  latch _ := rfl

end Rtmp
