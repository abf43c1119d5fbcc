import Rtmp.Chunk.Loop
import Rtmp.Lib.Replay
import Rtmp.Session.Limits
import Rtmp.Session.Setup

/-!
Setting up a connection does not depend on how its bytes are cut.

* `ChunkReader.instPort`, `Link.instPort`: more bytes arrive while a connection is set up;
* `ChunkReader.online_readMessage`: a message is read alike whenever its bytes arrive;
* `Link.online_waitFor`: so is a whole wait, since the rounds it is allowed do not matter
  (`Link.await_rounds`);
* **`negotiations_online`**: so are the negotiations of a server, a publisher and a player.
-/

namespace Rtmp

open Eff (Online Steady)

/-! ### Reading -/

/-- A read that failed before the end of the source does not look at what comes later. -/
lemma readExact_append {n : ℕ} {es rest : List ReadEvent} {kind : IoErrorKind}
    (h : readExact n es = (.error kind, rest)) (hkind : kind ≠ .unexpectedEof) (fs : List ReadEvent) :
    readExact n (es ++ fs) = (.error kind, rest ++ fs) := by
  induction n generalizing es with
  | zero =>
      rw [readExact_zero] at h
      cases h
  | succ n ih =>
      rcases es with _ | ⟨b | kind', es⟩
      · simp only [readExact, Prod.mk.injEq, Except.error.injEq] at h
        exact absurd h.1.symm hkind
      · rw [readExact] at h
        rcases hr : readExact n es with ⟨kind' | bs, rest'⟩ <;> rw [hr] at h
        · cases h
          rw [List.cons_append, readExact, ih hr]
        · cases h
      · cases h
        rfl

namespace ChunkReader

/-- More bytes arrive; nothing is written. -/
instance instPort : Port Error ChunkReader UInt8 where
  feed bs := ChunkReader.feed (ReadEvent.bytes bs)
  sent _ := []
  starved := .io .unexpectedEof
  feed_nil := feed_nil
  feed_append xs ys r := by rw [feed_feed, ReadEvent.bytes_append]
  sent_feed _ _ := rfl

variable {α : Type}

/-- Nothing is written by the reader. -/
lemma online_of_settled {x : ReaderM α}
    (h : ∀ {r r' : ChunkReader} {out : Except Error α}, x.run r = (out, r') →
      out ≠ .error (.io .unexpectedEof) →
      ∀ bs, x.run (r.feed (ReadEvent.bytes bs)) = (out, r'.feed (ReadEvent.bytes bs))) : Online x where
  settled := h
  grows _ := List.prefix_refl _
  resumes _ _ := List.prefix_refl _

instance online_gets_state (csid : UInt32) :
    Online (Eff.gets fun r => (r.states csid).getD {} : ReaderM InState) := .gets fun _ _ => rfl

instance online_gets_size : Online (Eff.gets fun r => r.chunkSize.val : ReaderM ℕ) :=
  .gets fun _ _ => rfl

instance online_setState (csid : UInt32) (st : InState) :
    Online (Eff.modify (setState csid st) : ReaderM Unit) :=
  .modify (fun _ _ => rfl) fun _ => List.prefix_refl _

instance online_setChunkSize (size : ℕ) :
    Online (Eff.modify (setChunkSize size) : ReaderM Unit) :=
  .modify (fun _ _ => rfl) fun _ => List.prefix_refl _

instance online_setWindowAckSize (size : UInt32) :
    Online (Eff.modify (setWindowAckSize size) : ReaderM Unit) :=
  .modify (fun _ _ => rfl) fun _ => List.prefix_refl _

instance online_readExactCounted (n : ℕ) : Online (readExactCounted n) :=
  online_of_settled fun {r r' out} hrun hout bs => by
    cases out with
    | ok as => exact (Streaming.readExactCounted n).extend hrun _
    | error e =>
        rw [run_readExactCounted] at hrun ⊢
        rcases hr : readExact n r.stream with ⟨kind | bs, rest⟩ <;> rw [hr] at hrun
        · cases hrun
          rw [stream_feed, readExact_append hr fun h => hout (by rw [h])]
          rfl
        · cases hrun

instance online_requireState (csid : UInt32) (text : String) : Online (requireState csid text) :=
  online_of_settled fun {r r' out} hrun _ bs => by
    rw [run_requireState] at hrun ⊢
    rw [show (r.feed (ReadEvent.bytes bs)).states csid = r.states csid from rfl]
    cases hst : r.states csid with
    | none =>
        rw [hst] at hrun
        cases hrun
        rfl
    | some st =>
        rw [hst] at hrun
        cases hrun
        rfl

instance online_readU24Be : Online readU24Be := by
  unfold readU24Be
  infer_instance

instance online_readU32LeStreamId : Online readU32LeStreamId := by
  unfold readU32LeStreamId
  infer_instance

instance online_readU32Be : Online readU32Be := by
  unfold readU32Be
  infer_instance

instance online_readType : Online readType := by
  unfold readType
  infer_instance

instance online_readCsid (low : UInt8) : Online (readCsid low) := by
  unfold readCsid
  infer_instance

instance online_readBasicHeader : Online readBasicHeader := by
  unfold readBasicHeader
  infer_instance

instance online_readExtended (field : UInt32) : Online (readExtended field) := by
  unfold readExtended
  infer_instance

instance online_readRepeatedTs (hadExtTs : Bool) : Online (readRepeatedTs hadExtTs) := by
  unfold readRepeatedTs
  infer_instance

instance online_readMessageHeader (fmt : UInt8) (csid : UInt32) :
    Online (readMessageHeader fmt csid) := by
  unfold readMessageHeader readFmt0Header readFmt1Header readFmt2Header readFmt3Header
  infer_instance

instance online_readPayload (csid : UInt32) (fmt : UInt8) : Online (readPayload csid fmt) := by
  unfold readPayload
  infer_instance

instance online_readChunk : Online readChunk := by
  unfold readChunk
  infer_instance

instance online_readChunks (n : ℕ) : Online (readChunks n) := by
  induction n with
  | zero => exact .fail _
  | succ n ih =>
      refine online_readChunk.seq fun out => ?_
      cases out with
      | none => exact ih
      | some msg => exact .pure msg

/-- A message is read alike whenever its bytes arrive. -/
instance online_readMessage : Online readMessage :=
  online_of_settled fun {r r' out} hrun hout bs => by
    have hlong : (readChunks ((r.feed (ReadEvent.bytes bs)).stream.length + 1)).run r = (out, r') := by
      rw [← hrun]
      exact readChunks_rounds (by rw [stream_feed, List.length_append]; omega) (Nat.lt_succ_self _)
    exact (online_readChunks _).settled hlong hout bs

end ChunkReader

/-! ### Writing -/

namespace ChunkWriter

lemma prefix_writeMessage (csid : UInt32) (msg : Message) (w : ChunkWriter) :
    w.stream <+: ((writeMessage csid msg).run w).2.stream := by
  by_cases hcsid : 2 ≤ csid.toNat ∧ csid.toNat ≤ 65599
  · obtain ⟨fmt, hpick, hlegal⟩ := pickFmt_legal (w.outState csid) msg
    rw [writeMessage_ok hcsid.1 hcsid.2 hpick hlegal]
    exact List.prefix_append _ _
  · rw [writeMessage_error msg hcsid]
    exact List.prefix_refl _

end ChunkWriter

/-! ### Setting up -/

namespace Link

variable {α β σ : Type}

/-- More bytes arrive. -/
instance instPort : Port Error Link UInt8 where
  feed bs l := { l with reader := Port.feed bs l.reader }
  sent l := l.writer.stream
  starved := .io .unexpectedEof
  feed_nil l := by rw [Port.feed_nil]
  feed_append xs ys l := by rw [Port.feed_append]
  sent_feed _ _ := rfl

instance online_onReader {x : ReaderM α} [hx : Online x] : Online (onReader x) where
  settled {l l' out} hrun hout bs := by
    obtain ⟨h₁, h₂⟩ := Prod.mk.inj hrun
    have hfed := hx.settled (Prod.ext h₁ rfl : x.run l.reader = (out, (x.run l.reader).2)) hout bs
    rw [← h₂]
    exact Eff.run_zoom hfed
  grows _ := List.prefix_refl _
  resumes {l l'} hrun bs := by
    obtain ⟨-, h₂⟩ := Prod.mk.inj hrun
    rw [← h₂]
    exact List.prefix_refl _

/-- The writer does not look at what arrives. -/
lemma online_onWriter {x : WriterM α} (hx : ∀ w, w.stream <+: (x.run w).2.stream) :
    Online (onWriter x) where
  settled {l l' out} hrun hout bs := by
    obtain ⟨h₁, h₂⟩ := Prod.mk.inj hrun
    rw [← h₁, ← h₂]
    rfl
  grows l := hx l.writer
  resumes {l l'} hrun bs := by
    obtain ⟨-, h₂⟩ := Prod.mk.inj hrun
    rw [← h₂]
    exact List.prefix_refl _

instance online_write (csid : UInt32) (msg : Message) : Online (write csid msg) :=
  online_onWriter (ChunkWriter.prefix_writeMessage csid msg)

instance online_setChunkSize (size : ℕ) :
    Online (onWriter (Eff.modify (ChunkWriter.setChunkSize size))) :=
  online_onWriter fun _ => List.prefix_refl _

instance online_announceChunkSize (size : UInt32) : Online (announceChunkSize size) := by
  unfold announceChunkSize
  infer_instance

instance online_hear : Online hear := by
  have hnote : ∀ msg : Message,
      Online (Eff.modify fun l => { l with heard := l.heard ++ [msg] } : LinkM Unit) := fun msg =>
    .modify (fun _ _ => rfl) fun _ => List.prefix_refl _
  exact online_onReader.seq fun msg => (hnote msg).seq fun _ => .pure msg

/-- Messages until one settles a wait, however many of them are allowed. -/
lemma online_await {step : σ → Message → LinkM (σ ⊕ β)} (h : ∀ st msg, Online (step st msg))
    (rounds : ℕ) (st : σ) : Online (await step rounds st) := by
  induction rounds generalizing st with
  | zero => exact .fail _
  | succ rounds ih =>
      refine online_hear.seq fun msg => (h st msg).seq fun r => ?_
      cases r with
      | inl st => exact ih st
      | inr b => exact .pure b

/-- The operation does not add to what is there to be read. -/
def Shrinks (l l' : Link) : Prop := l'.reader.stream.length ≤ l.reader.stream.length

instance instReflShrinks : Std.Refl Shrinks := ⟨fun _ => le_refl _⟩

instance instTransShrinks : IsTrans Link Shrinks := ⟨fun _ _ _ h h' => le_trans h' h⟩

lemma shrinks_of_rests {x : LinkM α} (hx : Eff.Along Rests x) : Eff.Along Shrinks x := fun l => by
  rw [Shrinks, (hx l).1]

/-- Protocol control is heeded without anything being read. -/
lemma shrinks_negotiate {msg : Message} {st : σ} {other : LinkM (σ ⊕ β)} (h : Eff.Along Rests other) :
    Eff.Along Shrinks (negotiate msg st other) := by
  have hreader : ∀ f : ChunkReader → ChunkReader, (∀ r, (f r).stream = r.stream) →
      Eff.Along Shrinks (onReader (Eff.modify f)) := fun f hf l =>
    (congrArg List.length (hf l.reader)).le
  have hheeded : ∀ (out : Except Error UInt32) (f : UInt32 → ChunkReader → ChunkReader),
      (∀ size r, (f size r).stream = r.stream) → Eff.Along Shrinks (do
        let size ← Eff.ofExcept out
        onReader (Eff.modify (f size))
        pure (.inl st) : LinkM (σ ⊕ β)) := by
    intro out f hf
    refine (Eff.Along.ofExcept _).bind fun size => ?_
    exact (hreader _ (hf size)).bind fun _ => .pure _
  exact .ite (hheeded _ _ fun _ _ => rfl) (.ite (hheeded _ _ fun _ _ => rfl)
    (.ite (hheeded _ _ fun _ _ => rfl) (shrinks_of_rests h)))

/-- A message that was heard was there to be read. -/
lemma shrinks_hear {l l' : Link} {msg : Message} (h : hear.run l = (.ok msg, l')) :
    l'.reader.stream.length < l.reader.stream.length := by
  obtain ⟨m, l₁, hread, hrest⟩ := Eff.run_bind_eq_ok.mp h
  cases hrest
  obtain ⟨hout, hlink⟩ := Prod.mk.inj hread
  rw [← hlink]
  exact ChunkReader.readMessage_shrinks (Prod.ext hout rfl)

/-- More rounds than there is input make no difference. -/
lemma await_rounds {step : σ → Message → LinkM (σ ⊕ β)} (h : ∀ st msg, Eff.Along Shrinks (step st msg))
    {n m : ℕ} {st : σ} {l : Link} (hn : l.reader.stream.length < n) (hm : l.reader.stream.length < m) :
    (await step n st).run l = (await step m st).run l := by
  induction n generalizing m st l with
  | zero => omega
  | succ n ih =>
      obtain ⟨m, rfl⟩ : ∃ k, m = k + 1 := ⟨m - 1, by omega⟩
      rw [await, await, Eff.run_bind, Eff.run_bind]
      rcases hhear : hear.run l with ⟨e | msg, l₁⟩
      · rfl
      · have hless := shrinks_hear hhear
        have hmore := h st msg l₁
        dsimp only
        rw [Eff.run_bind, Eff.run_bind]
        rcases hstep : (step st msg).run l₁ with ⟨e | st' | b, l₂⟩
        · rfl
        · rw [hstep] at hmore
          exact ih (lt_of_le_of_lt hmore (by omega)) (lt_of_le_of_lt hmore (by omega))
        · rfl

/-- **A wait**: the rounds it is allowed do not matter, and so it is the same whenever its bytes
arrive. -/
lemma online_waitFor {step : σ → Message → LinkM (σ ⊕ β)} (hon : ∀ st msg, Online (step st msg))
    (hshrinks : ∀ st msg, Eff.Along Shrinks (step st msg)) (st : σ) : Online (waitFor step st) := by
  have hrounds : ∀ (l : Link) (n : ℕ), l.reader.stream.length < n →
      (waitFor step st).run l = (await step n st).run l := fun l n hn =>
    await_rounds hshrinks (Nat.lt_succ_self _) hn
  have hfed : ∀ (l : Link) (bs : List UInt8),
      l.reader.stream.length ≤ (Port.feed bs l : Link).reader.stream.length := fun l bs => by
    show _ ≤ (l.reader.stream ++ ReadEvent.bytes bs).length
    rw [List.length_append]
    omega
  exact
    { settled := fun {l l' out} hrun hout bs => by
        rw [hrounds l _ (Nat.lt_succ_of_le (hfed l bs))] at hrun
        exact (online_await hon _ st).settled hrun hout bs
      grows := fun l => (online_await hon (l.reader.stream.length + 1) st).grows l
      resumes := fun {l l'} hrun bs => by
        rw [hrounds l _ (Nat.lt_succ_of_le (hfed l bs))] at hrun
        exact (online_await hon _ st).resumes hrun bs }

/-- Protocol control is heeded whenever more arrives. -/
lemma online_negotiate {msg : Message} {st : σ} {other : LinkM (σ ⊕ β)} (hother : Online other) :
    Online (negotiate msg st other) := by
  unfold negotiate
  infer_instance

end Link

open Link

/-! ### The server -/

instance online_answerConnect (txId : Binary64) (serverCaps : ConnectCapabilities) :
    Online (answerConnect txId serverCaps) := by
  unfold answerConnect
  infer_instance

instance online_connectCommand (serverCaps : ConnectCapabilities) (values : List Amf0Value) :
    Online (connectCommand serverCaps values) := by
  refine (Online.ofExcept _).seq fun name => ?_
  dsimp only
  cases values[2]? with
  | none => infer_instance
  | some cmdObj => infer_instance

instance online_prepareCommand (st : Preparing) (values : List Amf0Value) :
    Online (prepareCommand st values) := by
  refine (Online.ofExcept _).seq fun name => ?_
  dsimp only
  infer_instance

/-- What the wait for the connect command does with a message. -/
def connectStep (serverCaps : ConnectCapabilities) (msg : Message) : LinkM (Unit ⊕ ConnectRequest) :=
  negotiate msg () (
    if msg.msgTypeId = msgCommandAmf0 ∨ msg.msgTypeId = msgCommandAmf3 then do
      let values ← Eff.ofExcept (commandBody msg)
      let request ← connectCommand serverCaps values
      pure (.inr request)
    else pure (.inl ()))

lemma awaitConnect_eq (serverCaps : ConnectCapabilities) :
    awaitConnect serverCaps = waitFor (fun () msg => connectStep serverCaps msg) () := rfl

lemma shrinks_connectStep (serverCaps : ConnectCapabilities) (msg : Message) :
    Eff.Along Shrinks (connectStep serverCaps msg) := by
  refine shrinks_negotiate (.ite ((Eff.Along.ofExcept _).bind fun values => ?_) (.pure _))
  exact (rests_connectCommand serverCaps values).bind fun _ => .pure _

instance online_awaitConnect (serverCaps : ConnectCapabilities) : Online (awaitConnect serverCaps) :=
  online_waitFor (fun () _ => online_negotiate inferInstance)
    (fun () msg => shrinks_connectStep serverCaps msg) ()

/-- What the wait for the direction does with a message. -/
def requestStep (connect : ConnectRequest) (st : Preparing) (msg : Message) :
    LinkM (Preparing ⊕ SessionRequest) :=
  negotiate msg st (
    if msg.msgTypeId = msgUserControl then pure (.inl (st.bufferLength msg.payload))
    else if msg.msgTypeId = msgCommandAmf0 ∨ msg.msgTypeId = msgCommandAmf3 then do
      let values ← Eff.ofExcept (commandBody msg)
      match ← prepareCommand st values with
      | .inl st => pure (.inl st)
      | .inr cmd => pure (.inr (toRequest connect st.bufferLengthMs (max msg.msgStreamId 1) cmd))
    else pure (.inl st))

lemma awaitRequest_eq (connect : ConnectRequest) :
    awaitRequest connect = waitFor (requestStep connect) ⟨1, none⟩ := rfl

lemma shrinks_requestStep (connect : ConnectRequest) (st : Preparing) (msg : Message) :
    Eff.Along Shrinks (requestStep connect st msg) := by
  refine shrinks_negotiate
    (.ite (.pure _) (.ite ((Eff.Along.ofExcept _).bind fun values => ?_) (.pure _)))
  refine (rests_prepareCommand st values).bind fun r => ?_
  cases r with
  | inl st => exact .pure _
  | inr cmd => exact .pure _

instance online_awaitRequest (connect : ConnectRequest) (st : Preparing) :
    Online (waitFor (requestStep connect) st) := by
  refine online_waitFor (fun st msg => ?_) (shrinks_requestStep connect) st
  refine online_negotiate (.branch (.pure _) (.branch ?_ (.pure _)))
  refine (Online.ofExcept _).seq fun values => (online_prepareCommand st values).seq fun r => ?_
  cases r with
  | inl st => exact .pure _
  | inr cmd => exact .pure _

/-- Up to the request. -/
instance online_driveUntilRequest (serverCaps : ConnectCapabilities) :
    Online (driveUntilRequest serverCaps) :=
  (online_awaitConnect serverCaps).seq fun connect => online_awaitRequest connect ⟨1, none⟩

/-! ### The clients -/

lemma shrinks_resultStep (expectedTx : Binary64) (msg : Message) :
    Eff.Along Shrinks (resultStep expectedTx msg) := by
  refine shrinks_negotiate (.ite ((Eff.Along.ofExcept _).bind fun values => .ite (.pure _) ?_)
    (.pure _))
  exact .ite (.fail _) (.pure _)

instance online_waitForResult (expectedTx : Binary64) : Online (waitForResult expectedTx) :=
  online_waitFor (fun () _ => online_negotiate inferInstance)
    (fun () msg => shrinks_resultStep expectedTx msg) ()

instance online_waitForCreateStreamResult (expectedTx : Binary64) :
    Online (waitForCreateStreamResult expectedTx) := by
  refine (online_waitForResult expectedTx).seq fun values => ?_
  cases lastNumber values with
  | none => exact .fail _
  | some sid => exact .pure _

instance online_settlesPublish (msg : Message) : Online (settlesPublish msg) := by
  unfold settlesPublish
  infer_instance

/-- The input that is used up is not taken for a time-out. -/
instance online_awaitPublishStart (rounds : ℕ) : Online (awaitPublishStart rounds) := by
  induction rounds with
  | zero => exact .pure ()
  | succ rounds ih =>
      refine Online.attempt_bind online_hear (fun msg => ?_) (fun e _ => ?_) rfl
      · exact (online_settlesPublish msg).seq fun settled => .branch (.pure ()) ih
      · cases e
        case io kind => exact .branch (.pure ()) (.fail _)
        all_goals exact .fail _

instance online_waitForPublishStart : Online waitForPublishStart := online_awaitPublishStart 20

instance online_requestPublish (u : RtmpUrl) (publishType : String) (caps : ConnectCapabilities) :
    Online (RtmpClient.requestPublish u publishType caps) := by
  refine (online_announceChunkSize _).seq fun _ => (online_write _ _).seq fun _ => ?_
  refine (online_waitForResult _).seq fun _ => (online_write _ _).seq fun _ => ?_
  refine (online_write _ _).seq fun _ => (online_write _ _).seq fun _ => ?_
  exact (online_waitForCreateStreamResult _).seq fun _ => (online_write _ _).seq fun _ => .pure _

instance online_playControl (isRecorded : Bool) (payload : List UInt8) :
    Online (playControl isRecorded payload) := by
  unfold playControl
  split <;> infer_instance

instance online_awaitPlayStart {step : Bool → Message → LinkM (Bool ⊕ Bool)}
    [hstep : ∀ isRecorded msg, Online (step isRecorded msg)] (rounds : ℕ) (isRecorded : Bool) :
    Online (awaitPlayStart step rounds isRecorded) := by
  induction rounds generalizing isRecorded with
  | zero => exact .fail _
  | succ rounds ih =>
      refine online_hear.seq fun msg => (hstep isRecorded msg).seq fun r => ?_
      cases r with
      | inl isRecorded => exact ih isRecorded
      | inr isRecorded => exact .pure _

/-- What the wait for the start of a stream does with a message. -/
def playStep (isRecorded : Bool) (msg : Message) : LinkM (Bool ⊕ Bool) :=
  negotiate msg isRecorded (
    if msg.msgTypeId = msgUserControl then do
      let isRecorded ← playControl isRecorded msg.payload
      pure (.inl isRecorded)
    else if msg.msgTypeId = msgCommandAmf0 then do
      let values ← Eff.ofExcept (Amf.decodeAll msg.payload)
      let name := (commandName values).getD ""
      if name = "onStatus" then do
        let started ← Eff.ofExcept (playStatus values[3]?)
        pure (if started then .inr isRecorded else .inl isRecorded)
      else if name = "_error" then Eff.fail (errorReply values)
      else pure (.inl isRecorded)
    else pure (.inl isRecorded))

instance online_playStep (isRecorded : Bool) (msg : Message) : Online (playStep isRecorded msg) :=
  online_negotiate inferInstance

instance online_waitForPlayStart : Online waitForPlayStart :=
  inferInstanceAs (Online (awaitPlayStart playStep 50 false))

instance online_askBufferLength (streamId : UInt32) (ms : Option UInt32) :
    Online (RtmpPlayer.askBufferLength streamId ms) := by
  cases ms with
  | none => exact .pure ()
  | some ms => exact online_write _ _

/-! ### The negotiations -/

instance steady_accept (req : PublishRequest) : Steady req.accept := by
  unfold PublishRequest.accept
  infer_instance

instance steady_acceptMode (req : PlayRequest) (recorded : Bool) :
    Steady (req.acceptMode recorded) := by
  unfold PlayRequest.acceptMode
  infer_instance

/-- A message is refused or written. -/
lemma online_attempt_write (csid : UInt32) (msg : Message) : Online (Eff.attempt (write csid msg)) := by
  refine (online_write csid msg).attempt fun l => ?_
  show ((ChunkWriter.writeMessage csid msg).run l.writer).1 ≠ .error (.io .unexpectedEof)
  by_cases hcsid : 2 ≤ csid.toNat ∧ csid.toNat ≤ 65599
  · obtain ⟨fmt, hpick, hlegal⟩ := ChunkWriter.pickFmt_legal (l.writer.outState csid) msg
    rw [ChunkWriter.writeMessage_ok hcsid.1 hcsid.2 hpick hlegal]
    exact nofun
  · rw [ChunkWriter.writeMessage_error msg hcsid]
    exact nofun

instance online_rejectPublish (req : PublishRequest) (reason : String) : Online (req.reject reason) :=
  (online_attempt_write _ _).seq fun _ => .fail _

instance online_rejectPlay (req : PlayRequest) (reason : String) : Online (req.reject reason) :=
  (online_attempt_write _ _).seq fun _ => .fail _

instance steady_serveSession {α : Type} (serverCaps : ConnectCapabilities)
    {handler : SessionRequest → LinkM α} [hhandler : ∀ req, Steady (handler req)] :
    Steady (RtmpServer.serveSession serverCaps handler) :=
  (online_driveUntilRequest serverCaps).steady hhandler

instance steady_serving {α : Type} {handler : PublishRequest → LinkM α}
    [hhandler : ∀ req, Steady (handler req)] (req : SessionRequest) :
    Steady (RtmpServer.serving handler req) := by
  cases req with
  | publish req => exact .map some
  | play req =>
      have hreject : Online (Eff.attempt (req.reject "publish-only endpoint")) :=
        (online_rejectPlay req _).attempt fun _ => nofun
      exact (hreject.seq fun _ => .pure none).toSteady

instance steady_serve {α : Type} (serverCaps : ConnectCapabilities) {handler : PublishRequest → LinkM α}
    [∀ req, Steady (handler req)] : Steady (RtmpServer.serve serverCaps handler) :=
  steady_serveSession serverCaps

lemma RtmpClient.steady_connectParsed (u : RtmpUrl) (publishType : String)
    (caps : ConnectCapabilities) :
    Steady (RtmpClient.connectParsed u publishType caps) := by
  unfold RtmpClient.connectParsed
  infer_instance

lemma RtmpPlayer.steady_connectWithOptions (u : RtmpUrl) (opts : PlayOptions) :
    Steady (RtmpPlayer.connectWithOptions u opts) := by
  refine (online_announceChunkSize _).steady fun _ => (online_write _ _).steady fun _ => ?_
  refine (online_waitForResult _).steady fun _ => (online_write _ _).steady fun _ => ?_
  refine (online_waitForCreateStreamResult _).steady fun _ => ?_
  refine (online_askBufferLength _ _).steady fun _ => (online_write _ _).steady fun _ => ?_
  exact online_waitForPlayStart.steady fun _ => inferInstance

/-- **Negotiations do not mind how their bytes are cut**: what a publisher, a player or a server has
put when some of its input is there is where it goes on from when more is, and what it puts before
it ends does not depend on what comes after.  So it is of a server that accepts or refuses the
requests it gets, and of any that does nothing worse with them. -/
theorem negotiations_causal (l : Link) :
    (∀ u publishType caps, Duplex.Causal (Eff.replay (RtmpClient.connectParsed u publishType caps)
      l).run) ∧
    (∀ u opts, Duplex.Causal (Eff.replay (RtmpPlayer.connectWithOptions u opts) l).run) ∧
    (∀ (α : Type) caps (handler : SessionRequest → LinkM α), (∀ req, Steady (handler req)) →
      Duplex.Causal (Eff.replay (RtmpServer.serveSession caps handler) l).run) ∧
    (∀ (req : PublishRequest) reason, Steady req.accept ∧ Steady (req.reject reason)) ∧
    ∀ (req : PlayRequest) recorded reason, Steady (req.acceptMode recorded) ∧
    Steady (req.reject reason) := by
  refine ⟨fun u publishType caps => ?_, fun u opts => ?_, fun α caps handler hhandler => ?_,
    fun req reason => ⟨inferInstance, inferInstance⟩,
    fun req recorded reason => ⟨inferInstance, inferInstance⟩⟩
  · exact (RtmpClient.steady_connectParsed u publishType caps).causal l
  · exact (RtmpPlayer.steady_connectWithOptions u opts).causal l
  · exact (steady_serveSession caps).causal l

end Rtmp
