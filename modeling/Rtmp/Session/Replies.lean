import Rtmp.Session.Delivery
import Rtmp.Session.Play

/-!
What serving a message does to pings: the answers it writes, what it queues, and whether it ends the
session.

* `pingOf`: the timestamp of a well-formed ping request;
* `pingsArrived`, `pingsServed`: the requests in messages and in the aggregates among them, in the
  order in which they arrived and in the order in which a queue serves them;
* `Session.Effect`: what an operation did to the wire, the queue and the end of the session;
* `Session.Serves`: an operation that answers the message it serves if it is a ping, with a lemma for
  each kind of handler.
-/

namespace Rtmp

open ChunkWriter

/-! ### Requests -/

/-- The timestamp of a well-formed ping request. -/
def pingOf (msg : Message) : Option UInt32 :=
  if msg.msgTypeId = msgUserControl then
    match UserControlEvent.parse msg.payload with
    | .ok (.pingRequest timestampMs) => some timestampMs
    | _ => none
  else none

/-- The messages an aggregate holds. -/
def subsOf (msg : Message) : List Message :=
  match parseAggregate msg with
  | .ok subs => subs
  | .error _ => []

lemma weight_subsOf (msg : Message) : weight (subsOf msg) < msg.payload.length + 1 := by
  rw [subsOf]
  cases h : parseAggregate msg with
  | ok subs => exact weight_parseAggregate h
  | error e => exact Nat.succ_pos _

/-- The ping requests of messages, in the order in which they arrived. -/
def pingsArrived : List Message → List UInt32
  | [] => []
  | msg :: msgs => (pingOf msg).toList ++ pingsArrived (subsOf msg ++ msgs)
termination_by msgs => weight msgs
decreasing_by
  have hlight := weight_subsOf msg
  simp only [weight_append, weight_cons]
  omega

/-- The ping requests of a queue, in the order in which it is served: what an aggregate holds goes to
its end. -/
def pingsServed : List Message → List UInt32
  | [] => []
  | msg :: queue => (pingOf msg).toList ++ pingsServed (queue ++ subsOf msg)
termination_by queue => weight queue
decreasing_by
  have hlight := weight_subsOf msg
  simp only [weight_append, weight_cons]
  omega

@[simp] lemma pingsArrived_nil : pingsArrived [] = [] := by rw [pingsArrived]

@[simp] lemma pingsServed_nil : pingsServed [] = [] := by rw [pingsServed]

lemma pingsServed_cons (msg : Message) (queue : List Message) :
    pingsServed (msg :: queue) = (pingOf msg).toList ++ pingsServed (queue ++ subsOf msg) := by
  rw [pingsServed]

lemma pingsArrived_append (msgs msgs' : List Message) :
    pingsArrived (msgs ++ msgs') = pingsArrived msgs ++ pingsArrived msgs' := by
  induction msgs using pingsArrived.induct with
  | case1 => rw [List.nil_append, pingsArrived_nil, List.nil_append]
  | case2 msg msgs ih =>
      rw [List.cons_append, pingsArrived, pingsArrived, ← List.append_assoc (subsOf msg), ih,
        List.append_assoc]

/-- The event data is too short for a ping request. -/
lemma pingOf_short {msg : Message} (hlen : msg.payload.length < 2) : pingOf msg = none := by
  rw [pingOf, UserControlEvent.parse, if_pos hlen]
  split_ifs <;> rfl

/-- Whether an event is a ping request, from its type and the length of its data. -/
lemma pingOf_control {msg : Message} (hcontrol : msg.msgTypeId = msgUserControl)
    (hlen : ¬ msg.payload.length < 2) :
    pingOf msg = if UInt16.ofNat (Bytes.ofBe (msg.payload.take 2)) = usrPingRequest ∧
        4 ≤ (msg.payload.drop 2).length
      then some (u32OfBe (msg.payload.drop 2)) else none := by
  rw [pingOf, if_pos hcontrol, UserControlEvent.parse, if_neg hlen]
  generalize UInt16.ofNat (Bytes.ofBe (msg.payload.take 2)) = eventType
  generalize msg.payload.drop 2 = data
  have hread : ∀ variant, UserControlEvent.readU32Be data variant = if data.length < 4 then
      .error (.protocolViolation s!"UserControl {variant}: event data {data.length} < 4 bytes")
      else .ok (u32OfBe data) := fun _ => rfl
  by_cases hping : eventType = usrPingRequest
  · subst hping
    by_cases hshort : data.length < 4 <;>
      simp [hread, hshort, usrPingRequest, usrStreamBegin, usrStreamEof, usrStreamDry,
        usrSetBufferLength, usrStreamIsRecorded]
  · simp only [hping, false_and, if_false, hread]
    split_ifs <;> rfl

/-! ### What is written -/

/-- Whether a message is a user-control event. -/
def isUserControl (msg : Message) : Bool := msg.msgTypeId = msgUserControl

/-- The writer was given these messages, on the chunk stream of protocol control. -/
def Writes (out : List Message) (w w' : ChunkWriter) : Prop :=
  (sendAll (sends (out.map (csidProtocolControl, ·)))).run w = (.ok (), w')

lemma writes_nil (w : ChunkWriter) : Writes [] w w := rfl

lemma writes_cons {msg : Message} {out : List Message} {w w' w'' : ChunkWriter}
    (hmsg : (writeMessage csidProtocolControl msg).run w = (.ok (), w')) (hout : Writes out w' w'') :
    Writes (msg :: out) w w'' := by
  rw [Writes, List.map_cons, sends, List.map_cons, sendAll, Eff.run_bind_ok hmsg]
  exact hout

lemma writes_cons_inv {msg : Message} {out : List Message} {w w'' : ChunkWriter}
    (h : Writes (msg :: out) w w'') :
    ∃ w', (writeMessage csidProtocolControl msg).run w = (.ok (), w') ∧ Writes out w' w'' := by
  rw [Writes, List.map_cons, sends, List.map_cons, sendAll] at h
  obtain ⟨_, w', hmsg, hout⟩ := Eff.run_bind_eq_ok.mp h
  exact ⟨w', hmsg, hout⟩

lemma writes_append {out out' : List Message} {w w' w'' : ChunkWriter} (h : Writes out w w')
    (h' : Writes out' w' w'') : Writes (out ++ out') w w'' := by
  induction out generalizing w with
  | nil =>
      cases h
      exact h'
  | cons msg out ih =>
      obtain ⟨w₁, hmsg, hout⟩ := writes_cons_inv h
      exact writes_cons hmsg (ih hout)

/-- What was written leaves a state of its chunk stream behind. -/
lemma states_of_writes {out : List Message} {w w' : ChunkWriter} (h : Writes out w w')
    (hout : out ≠ [] ∨ (w.states csidProtocolControl).isSome) :
    (w'.states csidProtocolControl).isSome := by
  induction out generalizing w with
  | nil =>
      cases h
      exact hout.resolve_left fun hne => hne rfl
  | cons msg out ih =>
      obtain ⟨w₁, hmsg, hrest⟩ := writes_cons_inv h
      obtain ⟨fmt, hpick, hlegal⟩ := pickFmt_legal (w.outState csidProtocolControl) msg
      rw [writeMessage_ok (by decide) (by decide) hpick hlegal] at hmsg
      refine ih hrest (.inr ?_)
      have hstate := congrArg (fun p => p.2.states csidProtocolControl) hmsg
      simp only [states_emit, setState, Function.update_self] at hstate
      rw [← hstate]
      rfl

namespace Session

variable {τ α β : Type}

/-- From `s` to `t` the pings `pongs` were answered in this order, and no other user-control event was
sent; `subs` went to the end of the queue, and the session did not end unless `ends` says so. -/
structure Effect (pongs : List UInt32) (subs : List Message) (ends : Prop) (s t : Session τ) :
    Prop where
  writes : ∃ out, Writes out s.writer t.writer ∧
    out.filter isUserControl = pongs.map buildUserControlPingResponse
  queue : t.pendingSubs = s.pendingSubs ++ subs
  ended : t.ended = true → s.ended = true ∨ ends

/-- Nothing that matters to pings happened. -/
abbrev Quiet : Session τ → Session τ → Prop := Effect [] [] False

lemma Effect.trans {pongs pongs' : List UInt32} {subs subs' : List Message} {ends ends' : Prop}
    {s t u : Session τ} (h : Effect pongs subs ends s t) (h' : Effect pongs' subs' ends' t u) :
    Effect (pongs ++ pongs') (subs ++ subs') (ends ∨ ends') s u where
  writes := by
    obtain ⟨out, hout, hpongs⟩ := h.writes
    obtain ⟨out', hout', hpongs'⟩ := h'.writes
    exact ⟨out ++ out', writes_append hout hout', by rw [List.filter_append, hpongs, hpongs',
      List.map_append]⟩
  queue := by rw [h'.queue, h.queue, List.append_assoc]
  ended hu := by
    rcases h'.ended hu with ht | hends
    · exact (h.ended ht).imp_right .inl
    · exact .inr (.inr hends)

lemma Effect.mono {pongs : List UInt32} {subs : List Message} {ends ends' : Prop} {s t : Session τ}
    (h : Effect pongs subs ends s t) (himp : ends → ends') : Effect pongs subs ends' s t :=
  ⟨h.writes, h.queue, fun ht => (h.ended ht).imp_right himp⟩

lemma Effect.refl (s : Session τ) : Quiet s s where
  writes := ⟨[], writes_nil _, rfl⟩
  queue := (List.append_nil _).symm
  ended := .inl

/-- What only looks at the reader, the limiter and the rest is quiet. -/
lemma quiet_of_eq {s t : Session τ} (hwriter : t.writer = s.writer)
    (hqueue : t.pendingSubs = s.pendingSubs) (hended : t.ended = s.ended) : Quiet s t where
  writes := ⟨[], by rw [hwriter]; exact writes_nil _, rfl⟩
  queue := by rw [hqueue, List.append_nil]
  ended h := .inl (hended ▸ h)

instance : Std.Refl (Quiet (τ := τ)) := ⟨Effect.refl⟩

instance : IsTrans (Session τ) Quiet :=
  ⟨fun _ _ _ h h' => (h.trans h').mono fun hends => hends.elim id id⟩

/-! ### What handlers share -/

/-- The operation can be followed by quiet ones. -/
lemma along_bind_quiet {pongs : List UInt32} {subs : List Message} {ends : Prop} {x : SessionM τ α}
    {f : α → SessionM τ β} (hx : Eff.Along (Effect pongs subs ends) x)
    (hf : ∀ a, Eff.Along Quiet (f a)) : Eff.Along (Effect pongs subs ends) (x >>= f) := by
  intro s
  have hs := hx s
  rcases hrun : x.run s with ⟨e | a, s'⟩ <;> rw [hrun] at hs
  · rw [Eff.run_bind_error hrun]
    exact hs
  · rw [Eff.run_bind_ok hrun]
    have hall := (hs.trans (hf a s')).mono fun hends => hends.elim id False.elim
    rwa [List.append_nil, List.append_nil] at hall

/-- Parsing comes first; what cannot be parsed is not served. -/
lemma along_parse {γ : Type} {pongs : List UInt32} {subs : List Message} {ends : Prop}
    {parsed : Except Error γ} {f : γ → SessionM τ β}
    (herror : ∀ e, parsed = .error e → pongs = [] ∧ subs = [])
    (hf : ∀ c, parsed = .ok c → Eff.Along (Effect pongs subs ends) (f c)) :
    Eff.Along (Effect pongs subs ends) (Eff.ofExcept parsed >>= f) := by
  cases h : parsed with
  | error e =>
      obtain ⟨rfl, rfl⟩ := herror e h
      exact fun s => (Effect.refl s).mono False.elim
  | ok c => exact hf c h

/-- Writing one message of protocol control. -/
lemma run_writeControl (msg : Message) (s : Session τ) :
    ∃ w, (onWriter (writeMessage csidProtocolControl msg)).run s = (.ok (), { s with writer := w }) ∧
      Writes [msg] s.writer w := by
  obtain ⟨⟨⟩, w, hrun⟩ := total_writeControl msg s.writer
  exact ⟨w, Eff.run_zoom hrun, writes_cons hrun (writes_nil w)⟩

lemma quiet_writeControl {msg : Message} (hmsg : isUserControl msg = false) :
    Eff.Along Quiet (onWriter (writeMessage csidProtocolControl msg) : SessionM τ Unit) := by
  intro s
  obtain ⟨w, hrun, hw⟩ := run_writeControl msg s
  rw [hrun]
  refine ⟨⟨[msg], hw, ?_⟩, (List.append_nil _).symm, .inl⟩
  rw [List.filter_cons_of_neg (by rw [hmsg]; exact Bool.false_ne_true)]
  rfl

/-- Answering a ping answers it, and does nothing else. -/
lemma effect_answerPing (timestampMs : UInt32) :
    Eff.Along (Effect [timestampMs] [] False) (answerPing timestampMs : SessionM τ Unit) := by
  intro s
  obtain ⟨w, hrun, hw⟩ := run_writeControl (buildUserControlPingResponse timestampMs) s
  rw [answerPing, hrun]
  exact ⟨⟨_, hw, rfl⟩, (List.append_nil _).symm, .inl⟩

lemma quiet_onReader (x : ReaderM α) : Eff.Along Quiet (onReader x : SessionM τ α) :=
  fun _ => quiet_of_eq rfl rfl rfl

lemma quiet_maybeSendAck : Eff.Along Quiet (maybeSendAck : SessionM τ Unit) := by
  refine (quiet_onReader _).bind fun due => ?_
  cases due with
  | none => exact .pure _
  | some seq => exact quiet_writeControl rfl

lemma quiet_handleSetChunkSize (msg : Message) :
    Eff.Along Quiet (handleSetChunkSize msg : SessionM τ Unit) :=
  (Eff.Along.ofExcept _).bind fun _ => quiet_onReader _

lemma quiet_handleWindowAckSize (msg : Message) :
    Eff.Along Quiet (handleWindowAckSize msg : SessionM τ Unit) :=
  (Eff.Along.ofExcept _).bind fun _ => quiet_onReader _

lemma quiet_handleSetPeerBandwidth (msg : Message) :
    Eff.Along Quiet (handleSetPeerBandwidth msg : SessionM τ Unit) := by
  refine (Eff.Along.ofExcept _).bind fun p =>
    Eff.Along.bind (fun _ => quiet_of_eq rfl rfl rfl) fun w => ?_
  cases w with
  | none => exact .pure _
  | some w => exact (quiet_onReader _).bind fun _ => quiet_writeControl rfl

/-- Serving an aggregate queues what it holds. -/
lemma effect_handleAggregate (msg : Message) :
    Eff.Along (Effect [] (subsOf msg) False) (handleAggregate msg : SessionM τ Unit) := by
  intro s
  rw [handleAggregate, Eff.run_bind, subsOf]
  cases parseAggregate msg with
  | error e => exact .refl s
  | ok subs => exact ⟨⟨[], writes_nil _, rfl⟩, rfl, .inl⟩

/-- The values of a command message. -/
def commandValues (msg : Message) : Option (List Amf0Value) :=
  if msg.msgTypeId = msgCommandAmf0 then (Amf.decodeAll msg.payload).toOption
  else if msg.msgTypeId = msgCommandAmf3 then (Amf3.decodeMessageToAmf0 msg.payload).toOption
  else none

/-- Whether a message is one of these commands. -/
def isCommand (names : List String) (msg : Message) : Bool :=
  ((commandValues msg).bind commandName).any (· ∈ names)

/-- A command ends the session if its name is one of those that do. -/
lemma effect_classifyCommand (names : List String) (values : List Amf0Value) :
    Eff.Along (Effect [] [] ((commandName values).any (· ∈ names) = true))
      (classifyCommand names values : SessionM τ (Option CommandEvent)) := by
  have hquiet : ∀ {γ : Type} {x : SessionM τ γ} {ends : Prop}, Eff.Along Quiet x →
      Eff.Along (Effect [] [] ends) x := fun h s => (h s).mono False.elim
  rw [classifyCommand]
  cases commandName values with
  | none => exact hquiet ((Eff.Along.ofExcept _).bind fun _ => .pure _)
  | some name =>
      dsimp only
      by_cases hname : name ∈ names
      · rw [if_pos hname]
        refine along_bind_quiet (fun s => ⟨⟨[], writes_nil _, rfl⟩, ?_, fun _ => .inr ?_⟩)
          fun _ => .pure _
        · exact (List.append_nil _).symm
        · rw [Option.any_some, decide_eq_true hname]
      · rw [if_neg hname]
        refine hquiet ((Eff.Along.ofExcept _).bind fun cmd => ?_)
        cases cmd with
        | some cmd => exact .pure _
        | none => exact .ite (.pure _) (.ite (.pure _) (.pure _))

/-! ### Serving messages -/

/-- The timestamps a connection answers a message with; a deaf one answers none. -/
def replies (deaf : Bool) (msg : Message) : List UInt32 :=
  if deaf then [] else (pingOf msg).toList

/-- Serving `msg`, the operation answers it if it is a ping, queues what it holds, and ends the
session only if `ends` says so. -/
abbrev Serves (deaf : Bool) (ends : Bool) (msg : Message) : SessionM τ α → Prop :=
  Eff.Along (Effect (replies deaf msg) (subsOf msg) (ends = true))

variable {deaf ends : Bool} {msg : Message}

lemma replies_other (h : msg.msgTypeId ≠ msgUserControl) : replies deaf msg = [] := by
  rw [replies, pingOf, if_neg h]
  cases deaf <;> rfl

lemma subsOf_other (h : msg.msgTypeId ≠ msgAggregate) : subsOf msg = [] := by
  rw [subsOf, parseAggregate, if_pos h]

/-- The types are told apart one after another. -/
lemma Serves.ite {p : Prop} [Decidable p] {x y : SessionM τ α} (hx : p → Serves deaf ends msg x)
    (hy : ¬ p → Serves deaf ends msg y) : Serves deaf ends msg (if p then x else y) := by
  split_ifs with h
  · exact hx h
  · exact hy h

/-- A message that is neither an event nor an aggregate need not be answered. -/
lemma serves_command {x : SessionM τ α} (hcontrol : msg.msgTypeId ≠ msgUserControl)
    (haggregate : msg.msgTypeId ≠ msgAggregate)
    (hx : Eff.Along (Effect [] [] (ends = true)) x) : Serves deaf ends msg x := by
  rw [Serves, replies_other hcontrol, subsOf_other haggregate]
  exact hx

lemma serves_quiet {x : SessionM τ α} (hcontrol : msg.msgTypeId ≠ msgUserControl)
    (haggregate : msg.msgTypeId ≠ msgAggregate) (hx : Eff.Along Quiet x) :
    Serves deaf ends msg x :=
  serves_command hcontrol haggregate fun s => (hx s).mono False.elim

/-- A message of one of the other types. -/
lemma serves_type {x : SessionM τ α} {typeId : UInt8} (hmsg : msg.msgTypeId = typeId)
    (hother : typeId ≠ msgUserControl ∧ typeId ≠ msgAggregate) (hx : Eff.Along Quiet x) :
    Serves deaf ends msg x :=
  serves_quiet (hmsg ▸ hother.1) (hmsg ▸ hother.2) hx

lemma serves_aggregate (hmsg : msg.msgTypeId = msgAggregate) (b : α) :
    Serves deaf ends msg (do handleAggregate msg; pure b : SessionM τ α) := by
  rw [Serves, replies_other (by rw [hmsg]; decide)]
  exact along_bind_quiet (fun s => (effect_handleAggregate msg s).mono False.elim) fun _ => .pure _

/-- An event that is not a ping. -/
lemma serves_event {x : SessionM τ α} (hmsg : msg.msgTypeId = msgUserControl)
    (hping : pingOf msg = none) (hx : Eff.Along (Effect [] [] (ends = true)) x) :
    Serves deaf ends msg x := by
  have hreplies : replies deaf msg = [] := by
    rw [replies, hping]
    cases deaf <;> rfl
  rw [Serves, hreplies, subsOf_other (by rw [hmsg]; decide)]
  exact hx

/-- A ping, and its answer. -/
lemma serves_ping {timestampMs : UInt32} (hmsg : msg.msgTypeId = msgUserControl)
    (hping : pingOf msg = some timestampMs) (b : α) :
    Serves false ends msg (do answerPing timestampMs; pure b : SessionM τ α) := by
  have hreplies : replies false msg = [timestampMs] := by
    rw [replies, hping]
    rfl
  rw [Serves, hreplies, subsOf_other (by rw [hmsg]; decide)]
  exact along_bind_quiet (fun s => (effect_answerPing timestampMs s).mono False.elim) fun _ => .pure _

/-- A command message, in either encoding. -/
lemma serves_commandValues {names : List String} {parsed : Except Error (List Amf0Value)}
    (hcontrol : msg.msgTypeId ≠ msgUserControl) (haggregate : msg.msgTypeId ≠ msgAggregate)
    (hvalues : commandValues msg = parsed.toOption) (f : Option CommandEvent → β) :
    Serves deaf (isCommand names msg) msg (do
      let values ← Eff.ofExcept parsed
      let ev ← classifyCommand names values
      pure (f ev) : SessionM τ β) := by
  refine serves_command hcontrol haggregate (along_parse (fun _ _ => ⟨rfl, rfl⟩) fun values hok => ?_)
  have hends : isCommand names msg = (commandName values).any (· ∈ names) := by
    rw [isCommand, hvalues, hok]
    rfl
  rw [hends]
  exact along_bind_quiet (effect_classifyCommand names values) fun _ => .pure _

lemma commandValues_amf0 (h : msg.msgTypeId = msgCommandAmf0) :
    commandValues msg = (Amf.decodeAll msg.payload).toOption := by
  rw [commandValues, if_pos h]

lemma commandValues_amf3 (h : msg.msgTypeId = msgCommandAmf3) :
    commandValues msg = (Amf3.decodeMessageToAmf0 msg.payload).toOption := by
  rw [commandValues, if_neg (by rw [h]; decide), if_pos h]

/-- An event, read by the shared parser. -/
lemma serves_userControl {f : UserControlEvent → SessionM τ β} {b : β}
    (hmsg : msg.msgTypeId = msgUserControl)
    (hping : ∀ timestampMs, f (.pingRequest timestampMs) = do answerPing timestampMs; pure b)
    (hother : ∀ ev, UserControlEvent.parse msg.payload = .ok ev →
      (∀ timestampMs, ev ≠ .pingRequest timestampMs) →
        Eff.Along (Effect [] [] (ends = true)) (f ev)) :
    Serves false ends msg (do
      let ev ← Eff.ofExcept (UserControlEvent.parse msg.payload)
      f ev) := by
  cases hparse : UserControlEvent.parse msg.payload with
  | error e =>
      have hnone : pingOf msg = none := by
        rw [pingOf, if_pos hmsg, hparse]
      exact serves_event hmsg hnone fun s => (Effect.refl s).mono False.elim
  | ok ev =>
      have hrun : (Eff.ofExcept (.ok ev) >>= f : SessionM τ β) = f ev := rfl
      rw [hrun]
      cases ev with
      | pingRequest timestampMs =>
          have hsome : pingOf msg = some timestampMs := by
            rw [pingOf, if_pos hmsg, hparse]
          rw [hping]
          exact serves_ping hmsg hsome b
      | _ =>
          have hnone : pingOf msg = none := by
            rw [pingOf, if_pos hmsg, hparse]
          refine serves_event hmsg hnone (hother _ hparse fun _ h => ?_)
          cases h

end Session

end Rtmp
