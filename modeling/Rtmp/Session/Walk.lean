import Rtmp.Session.Dispatch

/-!
Properties of what a connection does with a message, from properties of its steps.

* `Session.Closed` collects what a property of operations has to satisfy to hold of everything the
  handlers do besides protocol control;
* `Session.Handled` does so for a property of the handling of one message, which may say more where the
  message is protocol control or an aggregate;
* `detached_handled` and `queues_handled` are the two properties every `Dispatcher` comes with.
-/

namespace Rtmp.Session

variable {τ : Type}

/-- A property of operations that sequences keep, and that parsing, answering on the protocol-control
stream and changing what is the connection's own have. -/
structure Closed (Q : ∀ {α : Type}, SessionM τ α → Prop) : Prop where
  ofExcept : ∀ {α : Type} (x : Except Error α), Q (Eff.ofExcept x : SessionM τ α)
  bind : ∀ {α β : Type} {x : SessionM τ α} {f : α → SessionM τ β}, Q x → (∀ a, Q (f a)) → Q (x >>= f)
  writeControl : ∀ msg, Q (onWriter (ChunkWriter.writeMessage csidProtocolControl msg) :
    SessionM τ Unit)
  note : ∀ (ended : Bool → Bool) (own : τ → τ),
    Q (Eff.modify fun s => { s with ended := ended s.ended, own := own s.own } : SessionM τ Unit)

namespace Closed

variable {Q : ∀ {α : Type}, SessionM τ α → Prop}

lemma pure (h : Closed Q) {α : Type} (a : α) : Q (pure a : SessionM τ α) := h.ofExcept (.ok a)

lemma fail (h : Closed Q) {α : Type} (e : Error) : Q (Eff.fail e : SessionM τ α) :=
  h.ofExcept (.error e)

lemma ite {α : Type} {p : Prop} [Decidable p] {x y : SessionM τ α} (hx : Q x) (hy : Q y) :
    Q (if p then x else y) := by
  split_ifs
  · exact hx
  · exact hy

/-- What is made of a parsed body. -/
lemma parsed (h : Closed Q) {α β : Type} (x : Except Error α) (f : α → β) :
    Q (Eff.ofExcept x >>= fun a => Pure.pure (f a) : SessionM τ β) :=
  h.bind (h.ofExcept x) fun a => h.pure (f a)

end Closed

/-- The messages that every connection handles alike. -/
def isManaged (msg : Message) : Bool :=
  msg.msgTypeId = msgSetChunkSize ∨ msg.msgTypeId = msgWindowAckSize ∨
    msg.msgTypeId = msgSetPeerBandwidth ∨ msg.msgTypeId = msgAggregate

/-- A property `P` of what is done with a message: of the four that are handled alike, each by itself,
and of anything else that has a closed property `Q`. -/
structure Handled (msg : Message) (Q P : ∀ {α : Type}, SessionM τ α → Prop) : Prop where
  closed : Closed Q
  other : ∀ {α : Type} {x : SessionM τ α}, isManaged msg = false → Q x → P x
  map : ∀ {α β : Type} {x : SessionM τ α} (f : α → β), P x → P (x >>= fun a => pure (f a))
  setChunkSize : msg.msgTypeId = msgSetChunkSize → P (handleSetChunkSize msg : SessionM τ Unit)
  windowAckSize : msg.msgTypeId = msgWindowAckSize → P (handleWindowAckSize msg : SessionM τ Unit)
  setPeerBandwidth : msg.msgTypeId = msgSetPeerBandwidth →
    P (handleSetPeerBandwidth msg : SessionM τ Unit)
  aggregate : msg.msgTypeId = msgAggregate → P (handleAggregate msg : SessionM τ Unit)

namespace Handled

variable {Q P : ∀ {α : Type}, SessionM τ α → Prop} {msg : Message} {α : Type} {x y : SessionM τ α}

/-- A property that is closed and that the four share holds of everything. -/
lemma of_closed (h : Closed Q) (hchunk : ∀ msg, Q (handleSetChunkSize msg : SessionM τ Unit))
    (hwindow : ∀ msg, Q (handleWindowAckSize msg : SessionM τ Unit))
    (hbandwidth : ∀ msg, Q (handleSetPeerBandwidth msg : SessionM τ Unit))
    (haggregate : ∀ msg, Q (handleAggregate msg : SessionM τ Unit)) (msg : Message) :
    Handled msg Q Q where
  closed := h
  other _ hx := hx
  map f hx := h.bind hx fun a => h.pure (f a)
  setChunkSize _ := hchunk msg
  windowAckSize _ := hwindow msg
  setPeerBandwidth _ := hbandwidth msg
  aggregate _ := haggregate msg

lemma ite {p : Prop} [Decidable p] (hx : p → P x) (hy : ¬ p → P y) : P (if p then x else y) := by
  split_ifs with hp
  · exact hx hp
  · exact hy hp

/-- What is done with the messages of a type of a connection's own. -/
lemma of_type (h : Handled msg Q P) {k : UInt8} (hk : msg.msgTypeId = k)
    (hother : isManaged ⟨k, 0, 0, []⟩ = false) (hx : Q x) : P x := by
  subst hk
  exact h.other hother hx

/-- The four, in the order in which most connections look at them, and what is done with the rest. -/
lemma managed (h : Handled msg Q P) (a : α) (hx : Q x) :
    P (if msg.msgTypeId = msgSetChunkSize then do
        handleSetChunkSize msg
        pure a
      else if msg.msgTypeId = msgWindowAckSize then do
        handleWindowAckSize msg
        pure a
      else if msg.msgTypeId = msgSetPeerBandwidth then do
        handleSetPeerBandwidth msg
        pure a
      else if msg.msgTypeId = msgAggregate then do
        handleAggregate msg
        pure a
      else x) := by
  refine ite (fun ht => h.map _ (h.setChunkSize ht)) fun hchunk => ?_
  refine ite (fun ht => h.map _ (h.windowAckSize ht)) fun hwindow => ?_
  refine ite (fun ht => h.map _ (h.setPeerBandwidth ht)) fun hbandwidth => ?_
  refine ite (fun ht => h.map _ (h.aggregate ht)) fun haggregate => h.other ?_ hx
  simp [isManaged, hchunk, hwindow, hbandwidth, haggregate]

end Handled

/-! ### Leaving the wire alone -/

lemma detached_closed : Closed (τ := τ) Detached where
  ofExcept := Detached.ofExcept
  bind hx hf := hx.bind hf
  writeControl _ := Detached.onWriter _
  note _ _ := Detached.modify fun _ _ _ => rfl

lemma detached_handled (msg : Message) : Handled (τ := τ) msg Detached Detached :=
  .of_closed detached_closed Detached.handleSetChunkSize Detached.handleWindowAckSize
    Detached.handleSetPeerBandwidth Detached.handleAggregate msg

/-! ### Leaving the queue alone -/

lemma keepsQueue_closed : Closed (τ := τ) (Eff.Along KeepsQueue) where
  ofExcept x := .ofExcept x
  bind hx hf := hx.bind hf
  writeControl _ := keepsQueue_onWriter _
  note _ _ := fun _ => rfl

/-- Only aggregates queue anything. -/
lemma queues_handled (msg : Message) : Handled (τ := τ) msg (Eff.Along KeepsQueue) (Queues msg) where
  closed := keepsQueue_closed
  other _ hx := .of_keeps hx
  map _ hx := hx.bind fun _ => .pure _
  setChunkSize _ := .of_keeps (keepsQueue_handleSetChunkSize msg)
  windowAckSize _ := .of_keeps (keepsQueue_handleWindowAckSize msg)
  setPeerBandwidth _ := .of_keeps (keepsQueue_handleSetPeerBandwidth msg)
  aggregate _ := queues_handleAggregate msg

end Rtmp.Session
