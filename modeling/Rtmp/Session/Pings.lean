import Rtmp.Session.Aggregates
import Rtmp.Session.Player
import Rtmp.Session.Replies
import Rtmp.Session.Rounds

/-!
Pings, and who answers them.

* `Dispatcher.Answering`: handlers that answer every ping, or are deaf to all, one lemma for each
  kind of connection;
* `Dispatcher.Answers`: after some rounds, what was answered and what still waits are the requests
  that were read;
* `responsive` (**pings**): play sessions, clients and players answer every request as long as none
  waits when the session ends and aggregates keep the order; publish sessions answer none.
-/

namespace Rtmp

open ChunkWriter

/-! ### The four connections -/

open Session

/-- The handlers of a connection serve messages, and noting the end of the stream does nothing else. -/
structure Dispatcher.Answering {τ α : Type} (d : Dispatcher τ α) (deaf : Bool)
    (ends : Message → Bool) : Prop where
  onSub : ∀ msg, Serves deaf (ends msg) msg (d.onSub msg)
  onWire : ∀ msg, Serves deaf (ends msg) msg (d.onWire msg)
  latch : ∀ s, (d.latch s).writer = s.writer ∧ (d.latch s).pendingSubs = s.pendingSubs
  /-- What ends the session is no aggregate. -/
  leaf : ∀ msg, ends msg = true → subsOf msg = []

/-- A command is no aggregate. -/
lemma subsOf_isCommand {names : List String} {msg : Message} (h : isCommand names msg = true) :
    subsOf msg = [] := by
  refine subsOf_other fun htype => ?_
  have hnone : commandValues msg = none := by
    rw [commandValues, if_neg (by rw [htype]; decide), if_neg (by rw [htype]; decide)]
  rw [isCommand, hnone] at h
  cases h

/-- A publish session does not look at events. -/
lemma RtmpSession.answering : dispatcher.Answering true (isCommand teardown) := by
  have hserves : ∀ msg, Serves true (isCommand teardown msg) msg (handleMessage msg) := by
    intro msg
    have hparsed : ∀ {β : Type} (x : Except Error β) (f : β → Option StreamPacket),
        Eff.Along Quiet (Eff.ofExcept x >>= fun b => pure (f b) : SessionM PublishState _) :=
      fun x f => (Eff.Along.ofExcept x).bind fun _ => .pure _
    have hframes : ∀ f, Eff.Along Quiet (modifyFrames f) := fun f _ => quiet_of_eq rfl rfl rfl
    have hdata : ∀ x : Except Error (List Amf0Value), Eff.Along Quiet
        ((Eff.ofExcept x : SessionM PublishState _) >>= dispatchDataValues) := by
      refine fun x => (Eff.Along.ofExcept x).bind fun values => ?_
      rw [dispatchDataValues]
      rcases parseDataFrame values with _ | ⟨handler, value⟩ | handler
      · rcases metadataObject values with _ | value
        · exact .pure _
        · exact (hframes _).bind fun _ => .pure _
      · exact (hframes _).bind fun _ => .pure _
      · exact (hframes _).bind fun _ => .pure _
    refine .ite (fun h => serves_type h (by decide) (hparsed _ _)) fun _ => ?_
    refine .ite (fun h => serves_type h (by decide) (hparsed _ _)) fun _ => ?_
    refine .ite (fun h => serves_type h (by decide) (hdata _)) fun _ => ?_
    refine .ite (fun h => serves_type h (by decide) (hdata _)) fun _ => ?_
    refine .ite (fun h => serves_commandValues (by rw [h]; decide) (by rw [h]; decide)
      (commandValues_amf0 h) _) fun _ => ?_
    refine .ite (fun h => serves_commandValues (by rw [h]; decide) (by rw [h]; decide)
      (commandValues_amf3 h) _) fun _ => ?_
    refine .ite (fun h => h.elim (fun h => serves_type h (by decide) (hparsed _ _))
      fun h => serves_type h (by decide) (hparsed _ _)) fun _ => ?_
    refine .ite (fun h => serves_aggregate h _) fun haggregate => ?_
    refine .ite (fun h => serves_type h (by decide)
      ((quiet_handleSetChunkSize msg).bind fun _ => .pure _)) fun _ => ?_
    refine .ite (fun h => serves_type h (by decide)
      ((quiet_handleWindowAckSize msg).bind fun _ => .pure _)) fun _ => ?_
    refine .ite (fun h => serves_type h (by decide)
      ((quiet_handleSetPeerBandwidth msg).bind fun _ => .pure _)) fun _ => ?_
    rw [Serves, subsOf_other haggregate]
    exact fun s => (Effect.refl s).mono False.elim
  exact ⟨hserves, hserves, fun _ => ⟨rfl, rfl⟩, fun _ => subsOf_isCommand⟩

/-- A play session answers pings. -/
lemma PlaySession.answering : dispatcher.Answering false (isCommand teardown) := by
  have hserves : ∀ msg, Serves false (isCommand teardown msg) msg (handleEventMessage msg) := by
    intro msg
    refine .ite (fun h => serves_commandValues (by rw [h]; decide) (by rw [h]; decide)
      (commandValues_amf0 h) _) fun _ => ?_
    refine .ite (fun h => serves_commandValues (by rw [h]; decide) (by rw [h]; decide)
      (commandValues_amf3 h) _) fun _ => ?_
    refine .ite (fun h => ?_) fun _ => ?_
    · have hparsed : Eff.Along Quiet (Eff.ofExcept (parseSharedObject msg) >>= fun so =>
          pure (some (.sharedObject so)) : SessionM PlayState (Option PlaySessionEvent)) :=
        (Eff.Along.ofExcept _).bind fun _ => .pure _
      exact h.elim (fun h => serves_type h (by decide) hparsed)
        fun h => serves_type h (by decide) hparsed
    refine .ite (fun h => serves_userControl h (fun _ => rfl) fun ev _ hev => ?_) fun hcontrol => ?_
    · cases ev with
      | pingRequest timestampMs => exact absurd rfl (hev timestampMs)
      | _ => exact fun s => (Effect.refl s).mono False.elim
    refine .ite (fun h => serves_type h (by decide)
      ((quiet_handleSetChunkSize msg).bind fun _ => .pure _)) fun _ => ?_
    refine .ite (fun h => serves_type h (by decide)
      ((quiet_handleWindowAckSize msg).bind fun _ => .pure _)) fun _ => ?_
    refine .ite (fun h => serves_type h (by decide)
      ((quiet_handleSetPeerBandwidth msg).bind fun _ => .pure _)) fun _ => ?_
    exact .ite (fun h => serves_aggregate h _) fun haggregate =>
      serves_quiet hcontrol haggregate (.pure _)
  exact ⟨hserves, hserves, fun _ => ⟨rfl, rfl⟩, fun _ => subsOf_isCommand⟩

/-- Whether a message tells a player that its stream is over. -/
def isStreamEof (msg : Message) : Bool :=
  if msg.msgTypeId = msgUserControl then
    match UserControlEvent.parse msg.payload with
    | .ok (.streamEof _) => true
    | _ => false
  else false

/-- A player answers pings. -/
lemma RtmpPlayer.answering : dispatcher.Answering false isStreamEof := by
  have hserves : ∀ msg, Serves false (isStreamEof msg) msg (handleMessage msg) := by
    intro msg
    have hparsed : ∀ {β : Type} (x : Except Error β) (f : β → Option PlayerPacket),
        Eff.Along Quiet (Eff.ofExcept x >>= fun b => pure (f b) : SessionM PlayerState _) :=
      fun x f => (Eff.Along.ofExcept x).bind fun _ => .pure _
    refine .ite (fun h => serves_type h (by decide) (hparsed _ _)) fun _ => ?_
    refine .ite (fun h => serves_type h (by decide) (hparsed _ _)) fun _ => ?_
    refine .ite (fun h => serves_type h (by decide) (hparsed _ _)) fun _ => ?_
    refine .ite (fun h => serves_type h (by decide) (hparsed _ _)) fun _ => ?_
    refine .ite (fun h => serves_type h (by decide) (hparsed _ _)) fun _ => ?_
    refine .ite (fun h => serves_type h (by decide) (hparsed _ _)) fun _ => ?_
    refine .ite (fun h => h.elim (fun h => serves_type h (by decide) (hparsed _ _))
      fun h => serves_type h (by decide) (hparsed _ _)) fun _ => ?_
    refine .ite (fun h => serves_userControl h (fun _ => rfl) fun ev hparse hev => ?_)
      fun hcontrol => ?_
    · cases ev with
      | pingRequest timestampMs => exact absurd rfl (hev timestampMs)
      | streamEof streamId =>
          have hends : isStreamEof msg = true := by
            rw [isStreamEof, if_pos h, hparse]
          exact fun s => ⟨⟨[], writes_nil _, rfl⟩, (List.append_nil _).symm, fun _ => .inr hends⟩
      | streamIsRecorded streamId =>
          have hrecorded : Eff.Along Quiet noteRecorded := fun _ => quiet_of_eq rfl rfl rfl
          have hquiet : Eff.Along Quiet (handleUserControl (.streamIsRecorded streamId)) :=
            hrecorded.bind fun _ => .pure _
          exact fun s => (hquiet s).mono False.elim
      | _ => exact fun s => (Effect.refl s).mono False.elim
    refine .ite (fun h => serves_type h (by decide)
      ((quiet_handleSetChunkSize msg).bind fun _ => .pure _)) fun _ => ?_
    refine .ite (fun h => serves_type h (by decide)
      ((quiet_handleWindowAckSize msg).bind fun _ => .pure _)) fun _ => ?_
    refine .ite (fun h => serves_type h (by decide)
      ((quiet_handleSetPeerBandwidth msg).bind fun _ => .pure _)) fun _ => ?_
    exact .ite (fun h => serves_aggregate h _) fun haggregate =>
      serves_quiet hcontrol haggregate (.pure _)
  refine ⟨hserves, hserves, fun _ => ⟨rfl, rfl⟩, fun msg h => subsOf_other fun htype => ?_⟩
  rw [isStreamEof, if_neg (by rw [htype]; decide)] at h
  cases h

/-- The client reads events by itself, and echoes a ping that is long enough. -/
lemma RtmpClient.serves_event {msg : Message} (hmsg : msg.msgTypeId = msgUserControl) :
    Serves false false msg (do
      let ev ← Eff.ofExcept (parseUserControl msg.payload)
      classifyUserControl ev.1 ev.2) := by
  have hother : ∀ {x : SessionM ClientState ClientEvent}, pingOf msg = none → Eff.Along Quiet x →
      Serves false false msg x := fun hping hx =>
    Session.serves_event hmsg hping fun s => (hx s).mono False.elim
  by_cases hlen : msg.payload.length < 2
  · rw [parseUserControl, if_pos hlen]
    exact hother (pingOf_short hlen) fun s => Effect.refl s
  · have hping := pingOf_control hmsg hlen
    rw [parseUserControl, if_neg hlen]
    -- neither the type nor the data matters beyond the branch they take
    generalize UInt16.ofNat (Bytes.ofBe (msg.payload.take 2)) = eventType at hping
    generalize msg.payload.drop 2 = data at hping
    have hrun : (Eff.ofExcept (.ok (eventType, data)) >>= fun ev => classifyUserControl ev.1 ev.2)
        = classifyUserControl eventType data := rfl
    rw [hrun, classifyUserControl]
    by_cases htype : eventType = usrPingRequest
    · subst htype
      rw [if_neg (by decide), if_neg (by decide), if_neg (by decide), if_neg (by decide),
        if_neg (by decide), if_pos rfl]
      by_cases hdata : 4 ≤ data.length
      · -- The four bytes that are echoed are those of the timestamp.
        have hbytes : data.take 4 = Bytes.toBe 4 (u32OfBe data).toNat := by
          have hfour : (data.take 4).length = 4 := by
            rw [List.length_take]
            omega
          have hlt := Bytes.ofBe_lt (data.take 4)
          rw [hfour] at hlt
          have hvalue : (u32OfBe data).toNat = Bytes.ofBe (data.take 4) := by
            rw [u32OfBe, UInt32.toNat_ofNat_of_lt' hlt]
          rw [hvalue]
          have hback := Bytes.toBe_ofBe (data.take 4)
          rwa [hfour, eq_comm] at hback
        have hecho : echoPing data = answerPing (u32OfBe data) := by
          rw [echoPing, if_pos hdata, hbytes]
          rfl
        rw [if_pos ⟨rfl, hdata⟩] at hping
        rw [hecho]
        exact serves_ping hmsg hping _
      · rw [if_neg fun h => hdata h.2] at hping
        rw [echoPing, if_neg hdata]
        exact hother hping ((Eff.Along.pure _).bind fun _ => .pure _)
    · rw [if_neg fun h => htype h.1] at hping
      refine hother hping ?_
      rw [if_neg htype]
      refine .ite (.ofExcept _) (.ite (.ofExcept _) (.ite (.ofExcept _) ?_))
      refine .ite (.ite (.fail _) (.pure _)) (.ite (.ofExcept _) ?_)
      exact .ite (.ite (.fail _) (.pure _)) (.pure _)

/-- A client answers pings; nothing it is sent ends it. -/
lemma RtmpClient.answering : dispatcher.Answering false fun _ => false := by
  have hserves : ∀ msg, Serves false false msg (classifyMessage msg) := by
    intro msg
    refine .ite (fun h => serves_type h (by decide)
      ((quiet_handleSetChunkSize msg).bind fun _ => .pure _)) fun _ => ?_
    refine .ite (fun h => serves_type h (by decide)
      ((quiet_handleWindowAckSize msg).bind fun _ => .pure _)) fun _ => ?_
    refine .ite (fun h => serves_type h (by decide)
      ((quiet_handleSetPeerBandwidth msg).bind fun _ => .pure _)) fun _ => ?_
    refine .ite (fun h => serves_type h (by decide) (.pure _)) fun _ => ?_
    refine .ite (fun h => RtmpClient.serves_event h) fun hcontrol => ?_
    refine .ite (fun h => serves_type h (by decide) (.ofExcept _)) fun _ => ?_
    refine .ite (fun h => serves_type h (by decide) (.ofExcept _)) fun _ => ?_
    refine .ite (fun h => h.elim (fun h => serves_type h (by decide) (.ofExcept _))
      fun h => serves_type h (by decide) (.ofExcept _)) fun _ => ?_
    exact .ite (fun h => serves_aggregate h _) fun haggregate =>
      serves_quiet hcontrol haggregate (.pure _)
  refine ⟨fun msg => along_bind_quiet (hserves msg) fun _ => .pure _, fun msg => ?_,
    fun _ => ⟨rfl, rfl⟩, fun _ h => by cases h⟩
  exact .ite (fun h => serves_aggregate h _) fun _ => along_bind_quiet (hserves msg) fun _ => .pure _

/-! ### Runs -/

namespace Session

variable {τ : Type}

/-- The next round serves its message to the satisfaction of whoever sent pings: a deaf connection
serves none, a message that ends the session has none waiting behind it, and a message off the wire
holds its pings in the order in which they will be served. -/
def Timely (deaf : Bool) (ends : Message → Bool) (s : Session τ) : Prop :=
  ∀ msg rest, s.serving = some (msg, rest) → (deaf = true → pingOf msg = none) ∧
    (ends msg = true → pingsServed rest = []) ∧
    (s.arriving = some msg → pingsServed [msg] = pingsArrived [msg])

end Session

namespace Dispatcher

variable {τ α : Type} (d : Dispatcher τ α)

/-- After `n` rounds, the pings that were answered and those that still wait are those that were
read, in order, and none waits in a session that is over. -/
def Answers (s : Session τ) (n : ℕ) : Prop :=
  ∃ out pongs, Writes out s.writer (d.rounds n s).writer ∧
    out.filter isUserControl = pongs.map buildUserControlPingResponse ∧
    pongs ++ pingsServed (d.rounds n s).pendingSubs = pingsArrived (d.received n s) ∧
    ((d.rounds n s).ended = true → pingsServed (d.rounds n s).pendingSubs = [])

variable {d} {deaf : Bool} {ends : Message → Bool}

/-- The acknowledgement that comes first is no answer. -/
lemma Answering.serve (hd : d.Answering deaf ends) (msg : Message) :
    Serves deaf (ends msg) msg (d.serve msg) := by
  intro s
  obtain ⟨_, t, hack, -⟩ := Bookkeeping.maybeSendAck s
  have hquiet := quiet_maybeSendAck.of_run hack
  have heffect := hd.onWire msg t
  have hrun : (d.serve msg).run s = (d.onWire msg).run t := Eff.run_bind_ok hack
  rw [hrun]
  exact (hquiet.trans heffect).mono fun h => h.elim False.elim id

/-- What a round does, from the message it serves. -/
lemma Answering.round (hd : d.Answering deaf ends) (s : Session τ) :
    (∃ msg rest, s.serving = some (msg, rest) ∧
      Effect (replies deaf msg) (subsOf msg) (ends msg = true) (s.withQueue rest) (d.round s).2) ∨
    s.serving = none ∧ (d.round s).2.writer = s.writer ∧
      (d.round s).2.pendingSubs = s.pendingSubs ∧
      ((d.round s).2.ended = true → s.ended = true ∨ s.pendingSubs = []) := by
  have hrounded := d.rounded s
  generalize hserving : s.serving = served at hrounded
  generalize d.round s = p at hrounded ⊢
  cases hrounded with
  | ended hended => exact .inr ⟨rfl, rfl, rfl, fun _ => .inl hended⟩
  | @sub msg rest hopen hqueue =>
      rw [snd_settle]
      exact .inl ⟨msg, rest, rfl, hd.onSub msg (s.withQueue rest)⟩
  | @read msg r hopen hqueue hread =>
      have heffect := hd.serve msg (s.withReader r)
      rw [snd_settle]
      exact .inl ⟨msg, [], rfl, heffect.writes,
        by rw [heffect.queue, pendingSubs_withReader, hqueue]; rfl, heffect.ended⟩
  | @closes e r hopen hqueue hread hcloses =>
      have hlatch := hd.latch (s.withReader r)
      exact .inr ⟨rfl, hlatch.1, hlatch.2, fun _ => .inr hqueue⟩
  | @fails e r hopen hqueue hread => exact .inr ⟨rfl, rfl, rfl, fun _ => .inr hqueue⟩

/-- **Every ping is answered**: in rounds that each meet the condition, what was answered and what
waits are the pings that were read. -/
theorem Answering.answers (hd : d.Answering deaf ends) {s : Session τ} (hopen : s.ended = false)
    (hqueue : s.pendingSubs = []) {n : ℕ}
    (htimely : ∀ k < n, (d.rounds k s).Timely deaf ends) : d.Answers s n := by
  induction n with
  | zero =>
      refine ⟨[], [], writes_nil _, rfl, ?_, fun h => ?_⟩
      · rw [rounds, hqueue, received, pingsServed_nil, pingsArrived_nil]
        rfl
      · rw [rounds, hopen] at h
        cases h
  | succ n ih =>
      obtain ⟨out, pongs, hout, hpongs, hall, hend⟩ := ih fun k hk => htimely k (Nat.lt_succ_of_lt hk)
      have hstep := htimely n (Nat.lt_succ_self n)
      have hround := hd.round (d.rounds n s)
      rw [Answers, received, pingsArrived_append]
      change ∃ out pongs, Writes out s.writer (d.round (d.rounds n s)).2.writer ∧ _ ∧
        pongs ++ pingsServed (d.round (d.rounds n s)).2.pendingSubs = _ ∧
        ((d.round (d.rounds n s)).2.ended = true →
          pingsServed (d.round (d.rounds n s)).2.pendingSubs = [])
      generalize d.rounds n s = u at hout hall hend hstep hround
      -- the call serves a message, or it finds none
      obtain ⟨msg, rest, hserving, heffect⟩ | ⟨hserving, hwriter, hsame, hended⟩ := hround
      · obtain ⟨hdeaf, hends, hwire⟩ := hstep msg rest hserving
        obtain ⟨out', hout', hpongs'⟩ := heffect.writes
        -- being timely, a deaf session has no ping to answer
        have hreplies : replies deaf msg = (pingOf msg).toList := by
          cases deaf with
          | false => rfl
          | true =>
              rw [hdeaf rfl]
              rfl
        have hwaiting : (d.round u).2.pendingSubs = rest ++ subsOf msg := heffect.queue
        refine ⟨out ++ out', pongs ++ replies deaf msg, writes_append hout hout', ?_, ?_, ?_⟩
        · rw [List.filter_append, hpongs, hpongs', List.map_append]
        · rw [hwaiting, List.append_assoc, hreplies, ← pingsServed_cons, ← hall]
          obtain ⟨harriving, hqueue⟩ | ⟨harriving, hqueue, rfl⟩ := serving_cases hserving
          · rw [harriving, hqueue]
            simp
          · rw [harriving, hqueue, hwire harriving]
            simp
        · intro hover
          rw [hwaiting]
          have hclosing := (heffect.ended hover).resolve_left fun h => by
            rw [show (u.withQueue rest).ended = u.ended from rfl, open_of_serving hserving] at h
            cases h
          rw [hd.leaf msg hclosing, List.append_nil]
          exact hends hclosing
      · refine ⟨out, pongs, by rw [hwriter]; exact hout, hpongs, ?_, fun hover => ?_⟩
        · rw [hsame, hall, arriving_of_serving hserving]
          simp
        · rw [hsame]
          rcases hended hover with hover' | hnil
          · exact hend hover'
          · rw [hnil, pingsServed_nil]

end Dispatcher

/-! ### Whole runs -/

/-- A connection of this kind that was just set up over `r` and `w`: its calls are rounds, and after
rounds that each meet the condition every ping that was read is answered, or waits its turn. -/
def Dispatcher.Responsive {τ α : Type} (d : Dispatcher τ α) (deaf : Bool) (ends : Message → Bool)
    (r : ChunkReader) (w : ChunkWriter) : Prop :=
  ∀ own : τ,
    (∀ n, ∃ k, (d.calls n (opened r w own)).2 = d.rounds k (opened r w own)) ∧
      ∀ n, (∀ k < n, (d.rounds k (opened r w own)).Timely deaf ends) → d.Answers (opened r w own) n

lemma Dispatcher.Answering.answersAll {τ α : Type} {d : Dispatcher τ α} {deaf : Bool}
    {ends : Message → Bool} (hd : d.Answering deaf ends) (r : ChunkReader) (w : ChunkWriter) :
    d.Responsive deaf ends r w :=
  fun _ => ⟨fun n => d.exists_rounds_calls n _, fun _ htimely => hd.answers rfl rfl htimely⟩

/-- **Pings**: play sessions, clients and players answer every ping they read, in order, as long as no
ping waits behind a message that ends the session and every aggregate holds its pings in the order
in which the queue will serve them; publish sessions do as long as they are sent no pings. -/
theorem responsive (r : ChunkReader) (w : ChunkWriter) :
    RtmpSession.dispatcher.Responsive true (isCommand RtmpSession.teardown) r w ∧
      PlaySession.dispatcher.Responsive false (isCommand PlaySession.teardown) r w ∧
      RtmpClient.dispatcher.Responsive false (fun _ => false) r w ∧
      RtmpPlayer.dispatcher.Responsive false isStreamEof r w :=
  ⟨RtmpSession.answering.answersAll r w, PlaySession.answering.answersAll r w,
    RtmpClient.answering.answersAll r w, RtmpPlayer.answering.answersAll r w⟩

/-- A ping that is not in an aggregate is served when it arrives. -/
lemma pingsServed_single (timestampMs : UInt32) :
    pingsServed [buildUserControlPingRequest timestampMs]
      = pingsArrived [buildUserControlPingRequest timestampMs] := by
  have hsubs : subsOf (buildUserControlPingRequest timestampMs) = [] :=
    subsOf_other (by decide : msgUserControl ≠ msgAggregate)
  rw [pingsServed, pingsArrived, hsubs]
  simp

/-- A ping on the wire of a play session. -/
theorem responsive_ping :
    PlaySession.dispatcher.Answers (opened (.new (ReadEvent.bytes
      (sent [(csidProtocolControl, buildUserControlPingRequest 7)]))) .new ⟨"live", "cam", 1⟩) 1 := by
  refine ((responsive _ _).2.1 _).2 1 fun k hk => ?_
  obtain rfl := Nat.lt_one_iff.mp hk
  have hserving : (opened (.new (ReadEvent.bytes (sent [(csidProtocolControl,
      buildUserControlPingRequest 7)]))) .new (⟨"live", "cam", 1⟩ : PlayState)).serving
        = some (buildUserControlPingRequest 7, []) := by decide +kernel
  intro msg rest h
  rw [Dispatcher.rounds, hserving] at h
  obtain ⟨rfl, rfl⟩ := Prod.mk.inj (Option.some.inj h)
  exact ⟨fun hdeaf => absurd hdeaf Bool.false_ne_true, fun _ => pingsServed_nil,
    fun _ => pingsServed_single 7⟩

/-- A ping on the wire of a publish session is read and not answered. -/
theorem not_answers_ping :
    ¬ RtmpSession.dispatcher.Answers
      (RtmpSession.receiving [(csidProtocolControl, buildUserControlPingRequest 7)]) 1 := by
  rintro ⟨out, pongs, hout, hpongs, hall, -⟩
  have hread : RtmpSession.dispatcher.received 1
      (RtmpSession.receiving [(csidProtocolControl, buildUserControlPingRequest 7)])
        = [buildUserControlPingRequest 7] := by decide +kernel
  have hqueue : (RtmpSession.dispatcher.rounds 1 (RtmpSession.receiving [(csidProtocolControl,
      buildUserControlPingRequest 7)])).pendingSubs = [] := by
    decide +kernel
  have hnone : ((RtmpSession.dispatcher.rounds 1 (RtmpSession.receiving [(csidProtocolControl,
      buildUserControlPingRequest 7)])).writer.states csidProtocolControl).isSome = false := by
    decide +kernel
  -- Nothing was written at all.
  obtain rfl : out = [] := by
    by_contra hne
    rw [states_of_writes hout (.inl hne)] at hnone
    cases hnone
  obtain rfl : pongs = [] := (List.map_eq_nil_iff.mp hpongs.symm)
  rw [hread, hqueue, pingsServed_nil, ← pingsServed_single, pingsServed_cons] at hall
  cases hall

end Rtmp
