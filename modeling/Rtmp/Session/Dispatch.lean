import Rtmp.Aggregate
import Rtmp.Chunk.Loop
import Rtmp.Chunk.Writing

/-!
What the four connections have in common once they are set up: a reader, a writer, a queue of
messages taken out of aggregates, and a loop that serves the queue before the wire.

* `Session`: the common state, over a state `τ` of the connection's own;
* `Dispatcher`: a connection as its handlers, which leave the wire alone (`Detached`) and only queue
  what an aggregate holds (`Queues`);
* `Dispatcher.round`, `Dispatcher.next`: one round of the loop, and a call that runs it to a result;
* `Dispatcher.next_eq`: the call, unrolled once; `Dispatcher.calls`: calls in a row.
-/

namespace Rtmp

/-- A connection between two calls; `own` is what one kind of connection has and the others have
not. -/
structure Session (τ : Type) where
  reader : ChunkReader
  writer : ChunkWriter
  /-- Messages taken out of an aggregate and not yet dispatched. -/
  pendingSubs : List Message
  peerBw : PeerBandwidthLimiter
  /-- Whether the connection is over for its reading side. -/
  ended : Bool
  own : τ

/-- A fallible operation of a connection. -/
abbrev SessionM (τ α : Type) := Eff Error (Session τ) α

namespace Session

variable {τ α β : Type}

/-- The session with its reader replaced. -/
def withReader (r : ChunkReader) (s : Session τ) : Session τ := { s with reader := r }

/-- The session with its queue replaced. -/
def withQueue (queue : List Message) (s : Session τ) : Session τ := { s with pendingSubs := queue }

/-- A connection that was just set up. -/
def opened (reader : ChunkReader) (writer : ChunkWriter) (own : τ) : Session τ where
  reader := reader
  writer := writer
  pendingSubs := []
  peerBw := .new
  ended := false
  own := own

@[simp] lemma reader_withReader (r : ChunkReader) (s : Session τ) :
    (s.withReader r).reader = r := rfl

@[simp] lemma pendingSubs_withReader (r : ChunkReader) (s : Session τ) :
    (s.withReader r).pendingSubs = s.pendingSubs := rfl

@[simp] lemma reader_withQueue (queue : List Message) (s : Session τ) :
    (s.withQueue queue).reader = s.reader := rfl

@[simp] lemma pendingSubs_withQueue (queue : List Message) (s : Session τ) :
    (s.withQueue queue).pendingSubs = queue := rfl

@[simp] lemma withQueue_withQueue (q q' : List Message) (s : Session τ) :
    (s.withQueue q).withQueue q' = s.withQueue q' := rfl

/-- An operation of the reader. -/
def onReader (x : ReaderM α) : SessionM τ α := Eff.zoom reader withReader x

/-- An operation of the writer. -/
def onWriter (x : WriterM α) : SessionM τ α := Eff.zoom writer (fun w s => { s with writer := w }) x

/-- Write the acknowledgement that is due, if any. -/
def sendAck : Option UInt32 → SessionM τ Unit
  | some seq => onWriter (ChunkWriter.writeMessage csidProtocolControl (buildAck seq))
  | none => pure ()

/-- Acknowledge what was received, if the peer's window is used up. -/
def maybeSendAck : SessionM τ Unit := do
  let due ← onReader (Eff.modifyGet ChunkReader.ackDue)
  sendAck due

/-! ### What every connection does with protocol control -/

/-- Set Chunk Size: bit 31 is reserved. -/
def handleSetChunkSize (msg : Message) : SessionM τ Unit := do
  let size ← Eff.ofExcept (readU32Be msg.payload)
  onReader (Eff.modify (ChunkReader.setChunkSize (size &&& 0x7FFFFFFF).toNat))

/-- Window Acknowledgement Size. -/
def handleWindowAckSize (msg : Message) : SessionM τ Unit := do
  let size ← Eff.ofExcept (readU32Be msg.payload)
  onReader (Eff.modify (ChunkReader.setWindowAckSize size))

/-- One step of the limiter. -/
def applyPeerBandwidth (window : UInt32) (limitType : UInt8) : SessionM τ (Option UInt32) :=
  Eff.modifyGet fun s => ((s.peerBw.apply window limitType).1,
    { s with peerBw := (s.peerBw.apply window limitType).2 })

/-- Adopt a new window and answer it, if there is one. -/
def adoptWindow : Option UInt32 → SessionM τ Unit
  | some w => do
      onReader (Eff.modify (ChunkReader.setWindowAckSize w))
      onWriter (ChunkWriter.writeMessage csidProtocolControl (buildWindowAckSize w))
  | none => pure ()

/-- Set Peer Bandwidth. -/
def handleSetPeerBandwidth (msg : Message) : SessionM τ Unit := do
  let limit ← Eff.ofExcept (parseSetPeerBandwidth msg.payload)
  let changed ← applyPeerBandwidth limit.1 limit.2
  adoptWindow changed

/-- Aggregate: its messages go to the end of the queue. -/
def handleAggregate (msg : Message) : SessionM τ Unit := do
  let subs ← Eff.ofExcept (parseAggregate msg)
  Eff.modify fun s => s.withQueue (s.pendingSubs ++ subs)

/-! ### Operations that leave the wire alone -/

/-- The session with another stream and other chunk stream states. -/
def withWire (es : List ReadEvent) (g : UInt32 → Option InState) (s : Session τ) : Session τ :=
  { s with reader := { s.reader with stream := es, states := g } }

/-- The operation neither looks at the stream and the chunk stream states nor changes them. -/
def Detached (x : SessionM τ α) : Prop :=
  ∀ es g s, x.run (s.withWire es g) = ((x.run s).1, (x.run s).2.withWire es g)

namespace Detached

lemma pure (a : α) : Detached (pure a : SessionM τ α) := fun _ _ _ => rfl

lemma fail (e : Error) : Detached (Eff.fail e : SessionM τ α) := fun _ _ _ => rfl

lemma ofExcept (a : Except Error α) : Detached (Eff.ofExcept a : SessionM τ α) := fun _ _ _ => rfl

lemma onWriter (x : WriterM α) : Detached (onWriter x : SessionM τ α) := fun _ _ _ => rfl

lemma modify {f : Session τ → Session τ} (h : ∀ es g s, f (s.withWire es g) = (f s).withWire es g) :
    Detached (Eff.modify f : SessionM τ Unit) := by
  intro es g s
  rw [Eff.run_modify, Eff.run_modify, h]

lemma bind {x : SessionM τ α} {f : α → SessionM τ β} (hx : Detached x) (hf : ∀ a, Detached (f a)) :
    Detached (x >>= f) := by
  intro es g s
  rw [Eff.run_bind, Eff.run_bind, hx es g s]
  rcases x.run s with ⟨e | a, s'⟩
  · rfl
  · exact hf a es g s'

lemma ite {p : Prop} [Decidable p] {x y : SessionM τ α} (hx : Detached x) (hy : Detached y) :
    Detached (if p then x else y) := by
  split_ifs
  · exact hx
  · exact hy

/-- A detached operation leaves the stream as it was. -/
lemma stream_eq {x : SessionM τ α} (h : Detached x) (s : Session τ) :
    (x.run s).2.reader.stream = s.reader.stream := by
  have hself := h s.reader.stream s.reader.states s
  exact congrArg (fun t : Except Error α × Session τ => t.2.reader.stream) hself

/-- A detached operation leaves the chunk stream states as they were. -/
lemma states_eq {x : SessionM τ α} (h : Detached x) (s : Session τ) :
    (x.run s).2.reader.states = s.reader.states := by
  have hself := h s.reader.stream s.reader.states s
  exact congrArg (fun t : Except Error α × Session τ => t.2.reader.states) hself

lemma maybeSendAck : Detached (maybeSendAck : SessionM τ Unit) := by
  refine bind (x := Session.onReader (Eff.modifyGet ChunkReader.ackDue)) ?_ fun due => ?_
  · intro es g s
    simp only [Session.onReader, Eff.zoom, Eff.run_modifyGet, ChunkReader.ackDue, withWire]
    split_ifs <;> rfl
  · cases due with
    | none => exact pure _
    | some seq => exact onWriter _

lemma handleSetChunkSize (msg : Message) : Detached (handleSetChunkSize msg : SessionM τ Unit) :=
  (ofExcept _).bind fun _ => fun _ _ _ => rfl

lemma handleWindowAckSize (msg : Message) : Detached (handleWindowAckSize msg : SessionM τ Unit) :=
  (ofExcept _).bind fun _ => fun _ _ _ => rfl

lemma handleSetPeerBandwidth (msg : Message) :
    Detached (handleSetPeerBandwidth msg : SessionM τ Unit) := by
  refine (ofExcept _).bind fun p => bind (fun _ _ _ => rfl) fun w => ?_
  cases w with
  | none => exact pure _
  | some w => exact bind (fun _ _ _ => rfl) fun _ => onWriter _

lemma handleAggregate (msg : Message) : Detached (handleAggregate msg : SessionM τ Unit) :=
  (ofExcept _).bind fun _ => modify fun _ _ _ => rfl

end Detached

/-! ### Operations on the queue -/

/-- The operation leaves the queue alone. -/
def KeepsQueue (s t : Session τ) : Prop := t.pendingSubs = s.pendingSubs

instance : Std.Refl (KeepsQueue (τ := τ)) := ⟨fun _ => rfl⟩

instance : IsTrans (Session τ) KeepsQueue := ⟨fun _ _ _ hst htu => Eq.trans htu hst⟩

/-- Serving `msg`, the operation leaves the queue alone or adds what the aggregate `msg` holds. -/
def Queues (msg : Message) (x : SessionM τ α) : Prop :=
  ∀ s, (x.run s).2.pendingSubs = s.pendingSubs ∨ ∃ subs, parseAggregate msg = .ok subs ∧
    (x.run s).2.pendingSubs = s.pendingSubs ++ subs

lemma Queues.ite {msg : Message} {p : Prop} [Decidable p] {x y : SessionM τ α} (hx : Queues msg x)
    (hy : Queues msg y) : Queues msg (if p then x else y) := by
  split_ifs
  · exact hx
  · exact hy

lemma Queues.of_keeps {msg : Message} {x : SessionM τ α} (h : Eff.Along KeepsQueue x) :
    Queues msg x := fun s => .inl (h s)

/-- What follows leaves the queue alone. -/
lemma Queues.bind {msg : Message} {x : SessionM τ α} {f : α → SessionM τ β} (hx : Queues msg x)
    (hf : ∀ a, Eff.Along KeepsQueue (f a)) : Queues msg (x >>= f) := by
  intro s
  have hs := hx s
  rcases hrun : x.run s with ⟨e | a, s'⟩
  · rw [hrun] at hs
    rw [Eff.run_bind_error hrun]
    exact hs
  · rw [hrun] at hs
    have hkeep : ((f a).run s').2.pendingSubs = s'.pendingSubs := hf a s'
    rw [Eff.run_bind_ok hrun, hkeep]
    exact hs

lemma keepsQueue_onReader (x : ReaderM α) : Eff.Along KeepsQueue (onReader x : SessionM τ α) :=
  fun _ => rfl

lemma keepsQueue_onWriter (x : WriterM α) : Eff.Along KeepsQueue (onWriter x : SessionM τ α) :=
  fun _ => rfl

lemma keepsQueue_handleSetChunkSize (msg : Message) :
    Eff.Along KeepsQueue (handleSetChunkSize msg : SessionM τ Unit) :=
  (Eff.Along.ofExcept _).bind fun _ => keepsQueue_onReader _

lemma keepsQueue_handleWindowAckSize (msg : Message) :
    Eff.Along KeepsQueue (handleWindowAckSize msg : SessionM τ Unit) :=
  (Eff.Along.ofExcept _).bind fun _ => keepsQueue_onReader _

lemma keepsQueue_handleSetPeerBandwidth (msg : Message) :
    Eff.Along KeepsQueue (handleSetPeerBandwidth msg : SessionM τ Unit) := by
  refine (Eff.Along.ofExcept _).bind fun p => Eff.Along.bind (fun _ => rfl) fun w => ?_
  cases w with
  | none => exact .pure _
  | some w => exact (keepsQueue_onReader _).bind fun _ => keepsQueue_onWriter _

/-- Serving an aggregate queues its messages. -/
lemma queues_handleAggregate (msg : Message) :
    Queues msg (handleAggregate msg : SessionM τ Unit) := by
  intro s
  rw [handleAggregate, Eff.run_bind]
  cases hparse : parseAggregate msg with
  | error e => exact .inl rfl
  | ok subs => exact .inr ⟨subs, rfl, rfl⟩

end Session

/-! ### The loop -/

/-- A kind of connection: what it does with a queued message and with one off the wire, which
failures of the reader it takes for the end of the stream, and what it notes then. -/
structure Dispatcher (τ α : Type) where
  onSub : Message → SessionM τ (Option α)
  onWire : Message → SessionM τ (Option α)
  closes : Error → Bool
  latch : Session τ → Session τ
  onSub_detached : ∀ msg, Session.Detached (onSub msg)
  onWire_detached : ∀ msg, Session.Detached (onWire msg)
  onSub_queues : ∀ msg, Session.Queues msg (onSub msg)
  latch_withWire : ∀ es g s, latch (s.withWire es g) = (latch s).withWire es g

namespace Dispatcher

variable {τ α : Type} (d : Dispatcher τ α)

/-- A handler that produced nothing sends the loop round again. -/
def settle : Except Error (Option α) × Session τ →
    Option (Except Error (Option α)) × Session τ
  | (.ok none, s) => (none, s)
  | (.ok (some ev), s) => (some (.ok (some ev)), s)
  | (.error e, s) => (some (.error e), s)

/-- A message off the wire: the acknowledgement that is due comes first. -/
def serve (msg : Message) : SessionM τ (Option α) := do
  Session.maybeSendAck
  d.onWire msg

/-- One round of the loop: the result of the call, or `none` to go on. -/
def round (s : Session τ) : Option (Except Error (Option α)) × Session τ :=
  if s.ended then (some (.ok none), s)
  else
    match s.pendingSubs with
    | sub :: rest => settle ((d.onSub sub).run (s.withQueue rest))
    | [] =>
        match ChunkReader.readMessage.run s.reader with
        | (.ok msg, r) => settle ((d.serve msg).run (s.withReader r))
        | (.error e, r) =>
            if d.closes e then (some (.ok none), d.latch (s.withReader r))
            else (some (.error e), s.withReader r)

lemma round_of_ended {s : Session τ} (h : s.ended = true) : d.round s = (some (.ok none), s) := by
  rw [round, if_pos h]

/-- With a queue, a round serves its front. -/
lemma round_of_sub {s : Session τ} {sub : Message} {rest : List Message} (hopen : s.ended = false)
    (hqueue : s.pendingSubs = sub :: rest) :
    d.round s = settle ((d.onSub sub).run (s.withQueue rest)) := by
  rw [round, if_neg (by rw [hopen]; exact Bool.false_ne_true), hqueue]

/-- Without a queue, a round serves the wire. -/
lemma round_of_read {s : Session τ} {msg : Message} {r : ChunkReader} (hopen : s.ended = false)
    (hqueue : s.pendingSubs = []) (hread : ChunkReader.readMessage.run s.reader = (.ok msg, r)) :
    d.round s = settle ((d.serve msg).run (s.withReader r)) := by
  rw [round, if_neg (by rw [hopen]; exact Bool.false_ne_true), hqueue, hread]

/-- A failure of the reader ends the call. -/
lemma round_of_error {s : Session τ} {e : Error} {r : ChunkReader} (hopen : s.ended = false)
    (hqueue : s.pendingSubs = []) (hread : ChunkReader.readMessage.run s.reader = (.error e, r)) :
    d.round s = if d.closes e then (some (.ok none), d.latch (s.withReader r))
      else (some (.error e), s.withReader r) := by
  rw [round, if_neg (by rw [hopen]; exact Bool.false_ne_true), hqueue, hread]

lemma settle_eq_none {p : Except Error (Option α) × Session τ} {s : Session τ}
    (h : settle p = (none, s)) : p = (.ok none, s) := by
  rcases p with ⟨_ | _ | ev, t⟩ <;> cases h
  rfl

lemma serve_detached (msg : Message) : Session.Detached (d.serve msg) :=
  Session.Detached.maybeSendAck.bind fun _ => d.onWire_detached msg

/-- The order in which the loop makes progress: less on the wire, or as much and less queued. -/
def Shrinks (s' s : Session τ) : Prop :=
  Prod.Lex (· < ·) (· < ·) (s'.reader.stream.length, weight s'.pendingSubs)
    (s.reader.stream.length, weight s.pendingSubs)

lemma wellFounded_shrinks : WellFounded (Shrinks (τ := τ)) :=
  InvImage.wf _ (WellFounded.prod_lex Nat.lt_wfRel.wf Nat.lt_wfRel.wf)

/-- Serving a queued message makes the queue lighter. -/
lemma sub_shrinks {s : Session τ} {sub : Message} {rest : List Message}
    (hqueue : s.pendingSubs = sub :: rest) :
    Shrinks ((d.onSub sub).run (s.withQueue rest)).2 s := by
  have hstream := (d.onSub_detached sub).stream_eq (s.withQueue rest)
  have hweight : weight ((d.onSub sub).run (s.withQueue rest)).2.pendingSubs
      < weight s.pendingSubs := by
    rw [hqueue, weight_cons]
    rcases d.onSub_queues sub (s.withQueue rest) with hsame | ⟨subs, hparse, hmore⟩
    · rw [hsame, Session.pendingSubs_withQueue]
      omega
    · have hlight := weight_parseAggregate hparse
      rw [hmore, weight_append, Session.pendingSubs_withQueue]
      omega
  rw [Shrinks, hstream]
  exact Prod.Lex.right _ hweight

/-- A message off the wire was taken off the wire. -/
lemma serve_shrinks {s : Session τ} (msg : Message) {r : ChunkReader}
    (hread : r.stream.length < s.reader.stream.length) :
    Shrinks ((d.serve msg).run (s.withReader r)).2 s := by
  have hstream := (d.serve_detached msg).stream_eq (s.withReader r)
  refine Prod.Lex.left _ _ ?_
  rw [hstream]
  exact hread

/-- A round that serves a message makes progress; any other has a result that is no item. -/
lemma round_cases (s : Session τ) :
    (∃ p : Except Error (Option α) × Session τ, d.round s = settle p ∧ Shrinks p.2 s) ∨
      ∃ out s', d.round s = (some out, s') ∧ ∀ item, out ≠ .ok (some item) := by
  rw [round]
  by_cases hended : s.ended
  · rw [if_pos hended]
    exact .inr ⟨_, _, rfl, nofun⟩
  rw [if_neg hended]
  rcases hqueue : s.pendingSubs with _ | ⟨sub, rest⟩
  · rcases hread : ChunkReader.readMessage.run s.reader with ⟨e | msg, r⟩
    · refine .inr ?_
      by_cases hcloses : d.closes e
      · exact ⟨_, _, if_pos hcloses, nofun⟩
      · exact ⟨_, _, if_neg hcloses, nofun⟩
    · exact .inl ⟨_, rfl, d.serve_shrinks msg (ChunkReader.readMessage_shrinks hread)⟩
  · exact .inl ⟨_, rfl, d.sub_shrinks hqueue⟩

/-- A round that sends the loop round again makes progress. -/
lemma round_shrinks {s s' : Session τ} (h : d.round s = (none, s')) : Shrinks s' s := by
  rcases d.round_cases s with ⟨p, hround, hshrinks⟩ | ⟨out, t, hround, -⟩
  · rw [settle_eq_none (hround.symm.trans h)] at hshrinks
    exact hshrinks
  · rw [hround] at h
    cases h

/-- So does one that has an item. -/
lemma round_item_shrinks {s s' : Session τ} {item : α}
    (h : d.round s = (some (.ok (some item)), s')) : Shrinks s' s := by
  rcases d.round_cases s with ⟨⟨out, t⟩, hround, hshrinks⟩ | ⟨out, t, hround, hout⟩
  · rw [hround] at h
    rcases out with e | _ | item <;> cases h
    exact hshrinks
  · rw [hround] at h
    cases h
    exact absurd rfl (hout item)

/-- One call: rounds until one has a result. -/
def next (s : Session τ) : Except Error (Option α) × Session τ :=
  match _h : d.round s with
  | (some out, s') => (out, s')
  | (none, s') => next s'
termination_by (s.reader.stream.length, weight s.pendingSubs)
decreasing_by exact d.round_shrinks _h

/-- `n` calls in a row, and what they returned. -/
def calls : ℕ → Session τ → List (Except Error (Option α)) × Session τ
  | 0, s => ([], s)
  | n + 1, s => ((d.next s).1 :: (calls n (d.next s).2).1, (calls n (d.next s).2).2)

/-- **A call, unrolled once.** -/
theorem next_eq (s : Session τ) :
    d.next s = match d.round s with
      | (some out, s') => (out, s')
      | (none, s') => d.next s' := by
  rw [next]
  rcases d.round s with ⟨_ | out, s'⟩ <;> rfl

lemma next_of_none {s s' : Session τ} (h : d.round s = (none, s')) : d.next s = d.next s' := by
  rw [next_eq, h]

lemma next_of_some {s s' : Session τ} {out : Except Error (Option α)}
    (h : d.round s = (some out, s')) : d.next s = (out, s') := by
  rw [next_eq, h]

/-- The round sends the loop round again. -/
def Silent (s s' : Session τ) : Prop := d.round s = (none, s')

/-- Rounds that only send the loop round again are part of the call. -/
lemma next_of_silent {s s' : Session τ} (h : Relation.ReflTransGen d.Silent s s') :
    d.next s = d.next s' := by
  induction h with
  | refl => rfl
  | tail _ hstep ih => rw [ih, d.next_of_none hstep]

/-- What holds after every round of a call holds after the call: the induction along its rounds. -/
theorem next_induct {P : Session τ → Prop} (h : ∀ s, (∀ s', d.round s = (none, s') → P s') → P s)
    (s : Session τ) : P s :=
  wellFounded_shrinks.induction s fun s ih => h s fun s' hs' => ih s' (d.round_shrinks hs')

/-- A call that returns an item makes progress. -/
lemma next_shrinks {s s' : Session τ} {item : α} (h : d.next s = (.ok (some item), s')) :
    Shrinks s' s := by
  revert h
  refine d.next_induct (P := fun s => d.next s = (.ok (some item), s') → Shrinks s' s)
    (fun s ih h => ?_) s
  rcases hround : d.round s with ⟨_ | out, t⟩
  · rw [d.next_of_none hround] at h
    have htrans : Shrinks s' t := ih t hround h
    exact Prod.Lex.trans htrans (d.round_shrinks hround)
  · rw [d.next_of_some hround] at h
    cases h
    exact d.round_item_shrinks hround

end Dispatcher

end Rtmp
