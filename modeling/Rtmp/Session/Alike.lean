import Rtmp.Chunk.Related
import Rtmp.Session.Publish

/-!
What a publish session surfaces does not depend on its bookkeeping.

* `Session.Alike`: states that differ at most in the acknowledgement counters, the limiter and what
  was written;
* `Dispatcher.Respecting`: handlers that do not tell alike sessions apart;
* `RtmpSession.calls_alike`: alike publish sessions return the same packets, call after call.
-/

namespace Rtmp

namespace Session

variable {τ α : Type}

/-- The sessions differ at most in the acknowledgement counters, the limiter and what was written. -/
structure Alike (s t : Session τ) : Prop where
  reader : s.reader.Alike t.reader
  pendingSubs : s.pendingSubs = t.pendingSubs
  ended : s.ended = t.ended
  own : s.own = t.own

namespace Alike

lemma refl (s : Session τ) : Alike s s := ⟨.refl _, rfl, rfl, rfl⟩

lemma symm {s t : Session τ} (h : Alike s t) : Alike t s :=
  ⟨h.reader.symm, h.pendingSubs.symm, h.ended.symm, h.own.symm⟩

lemma trans {s t u : Session τ} (h : Alike s t) (h' : Alike t u) : Alike s u :=
  ⟨h.reader.trans h'.reader, h.pendingSubs.trans h'.pendingSubs, h.ended.trans h'.ended,
    h.own.trans h'.own⟩

lemma withReader {s t : Session τ} (h : Alike s t) {r r' : ChunkReader} (hr : r.Alike r') :
    Alike (s.withReader r) (t.withReader r') := ⟨hr, h.pendingSubs, h.ended, h.own⟩

lemma withQueue {s t : Session τ} (h : Alike s t) (q : List Message) :
    Alike (s.withQueue q) (t.withQueue q) := ⟨h.reader, rfl, h.ended, h.own⟩

end Alike

open Eff (Respects)

lemma onReader_alike {x : ReaderM α} (hx : Respects ChunkReader.Alike x) :
    Respects Alike (onReader x : SessionM τ α) :=
  Respects.zoom hx (fun _ _ h => h.reader) fun _ _ _ _ h hr => h.withReader hr

lemma setChunkSize_alike (size : ℕ) :
    Respects ChunkReader.Alike (Eff.modify (ChunkReader.setChunkSize size) : ReaderM Unit) :=
  .modify fun _ _ h => ⟨h.stream, rfl, h.states⟩

lemma handleSetChunkSize_alike (msg : Message) :
    Respects Alike (handleSetChunkSize msg : SessionM τ Unit) :=
  (Respects.ofExcept _).bind fun _ => onReader_alike (setChunkSize_alike _)

lemma handleWindowAckSize_alike (msg : Message) :
    Respects Alike (handleWindowAckSize msg : SessionM τ Unit) :=
  (Respects.ofExcept _).bind fun _ =>
    onReader_alike (.modify fun _ _ h => ⟨h.stream, h.chunkSize, h.states⟩)

lemma handleAggregate_alike (msg : Message) :
    Respects Alike (handleAggregate msg : SessionM τ Unit) := by
  refine (Respects.ofExcept _).bind fun subs => .modify fun s t h => ?_
  rw [h.pendingSubs]
  exact h.withQueue _

/-! ### Operations that surface nothing -/

/-- The protocol-control stream takes every message. -/
lemma total_writeControl (msg : Message) :
    Eff.Total (ChunkWriter.writeMessage csidProtocolControl msg) := by
  intro w
  obtain ⟨fmt, hpick, hlegal⟩ := ChunkWriter.pickFmt_legal (w.outState csidProtocolControl) msg
  exact ⟨(), _, ChunkWriter.writeMessage_ok (by decide) (by decide) hpick hlegal⟩

/-- The operation succeeds and changes bookkeeping alone. -/
def Bookkeeping (x : SessionM τ α) : Prop := ∀ s, ∃ a t, x.run s = (.ok a, t) ∧ Alike s t

namespace Bookkeeping

lemma pure (a : α) : Bookkeeping (pure a : SessionM τ α) := fun s => ⟨a, s, rfl, .refl s⟩

lemma bind {β : Type} {x : SessionM τ α} {f : α → SessionM τ β} (hx : Bookkeeping x)
    (hf : ∀ a, Bookkeeping (f a)) : Bookkeeping (x >>= f) := by
  intro s
  obtain ⟨a, t, hs, hst⟩ := hx s
  obtain ⟨b, u, ht, htu⟩ := hf a t
  exact ⟨b, u, (Eff.run_bind_ok hs).trans ht, hst.trans htu⟩

lemma total {x : SessionM τ α} (hx : Bookkeeping x) : Eff.Total x := fun s =>
  (hx s).imp fun _ h => h.imp fun _ h => h.1

/-- Alike sessions stay alike when each does bookkeeping. -/
lemma alike {x : SessionM τ Unit} (hx : Bookkeeping x) : Respects Alike x := by
  intro s t hst
  obtain ⟨_, s', hs, hs'⟩ := hx s
  obtain ⟨_, t', ht, ht'⟩ := hx t
  rw [hs, ht]
  exact ⟨rfl, (hs'.symm.trans hst).trans ht'⟩

lemma writeControl (msg : Message) :
    Bookkeeping (onWriter (ChunkWriter.writeMessage csidProtocolControl msg) : SessionM τ Unit) := by
  intro s
  obtain ⟨u, w, hrun⟩ := total_writeControl msg s.writer
  exact ⟨u, _, Eff.run_zoom hrun, .refl _, rfl, rfl, rfl⟩

lemma maybeSendAck : Bookkeeping (maybeSendAck : SessionM τ Unit) := by
  refine bind (fun s => ⟨s.reader.ackDue.1, s.withReader s.reader.ackDue.2, rfl, ?_, rfl, rfl, rfl⟩)
    fun due => ?_
  · simp only [reader_withReader, ChunkReader.ackDue]
    split_ifs <;> exact ⟨rfl, rfl, rfl⟩
  · cases due with
    | none => exact pure ()
    | some seq => exact writeControl (buildAck seq)

lemma adoptWindow (changed : Option UInt32) : Bookkeeping (adoptWindow changed : SessionM τ Unit) := by
  cases changed with
  | none => exact pure ()
  | some w =>
      refine bind (fun s => ⟨(), _, rfl, ⟨rfl, rfl, rfl⟩, rfl, rfl, rfl⟩) fun _ => ?_
      exact writeControl (buildWindowAckSize w)

lemma applyPeerBandwidth (window : UInt32) (limitType : UInt8) :
    Bookkeeping (applyPeerBandwidth window limitType : SessionM τ (Option UInt32)) :=
  fun _ => ⟨_, _, rfl, .refl _, rfl, rfl, rfl⟩

end Bookkeeping

/-- A new window is bookkeeping, and so is the answer to it. -/
lemma handleSetPeerBandwidth_alike (msg : Message) :
    Respects Alike (handleSetPeerBandwidth msg : SessionM τ Unit) :=
  (Respects.ofExcept _).bind fun limit =>
    ((Bookkeeping.applyPeerBandwidth limit.1 limit.2).bind .adoptWindow).alike

/-- Alike sessions are not told apart by any handler. -/
lemma alike_handled (msg : Message) : Handled (τ := τ) msg (Respects Alike) (Respects Alike) := by
  refine .of_closed ?_ handleSetChunkSize_alike handleWindowAckSize_alike handleSetPeerBandwidth_alike
    handleAggregate_alike msg
  refine ⟨.ofExcept, fun hx hf => hx.bind hf, fun msg => (Bookkeeping.writeControl msg).alike, ?_⟩
  exact fun _ _ => .modify fun s t h => ⟨h.reader, h.pendingSubs, by rw [h.ended], by rw [h.own]⟩

end Session

/-! ### The loop -/

namespace Dispatcher

open Eff (Respects)
open Session (Alike)

variable {τ α : Type} {d : Dispatcher τ α}

/-- The handlers do not look at the bookkeeping. -/
structure Respecting (d : Dispatcher τ α) : Prop where
  onSub : ∀ msg, Respects Alike (d.onSub msg)
  onWire : ∀ msg, Respects Alike (d.onWire msg)
  latch : ∀ s t, Alike s t → Alike (d.latch s) (d.latch t)

lemma settle_alike {p q : Except Error (Option α) × Session τ} (hout : p.1 = q.1)
    (hend : Alike p.2 q.2) : (settle p).1 = (settle q).1 ∧ Alike (settle p).2 (settle q).2 := by
  obtain ⟨o, s⟩ := p
  obtain ⟨o', t⟩ := q
  cases hout
  rcases o with e | _ | ev <;> exact ⟨rfl, hend⟩

/-- A round of alike sessions has the same result. -/
lemma Respecting.round (hd : d.Respecting) {s t : Session τ} (h : Alike s t) :
    (d.round s).1 = (d.round t).1 ∧ Alike (d.round s).2 (d.round t).2 := by
  rw [Dispatcher.round, Dispatcher.round, h.ended, h.pendingSubs]
  split_ifs with hended
  · exact ⟨rfl, h⟩
  · rcases t.pendingSubs with _ | ⟨sub, rest⟩
    · obtain ⟨hout, hend⟩ := ChunkReader.readMessage_alike _ _ h.reader
      rcases hs : ChunkReader.readMessage.run s.reader with ⟨e | msg, r⟩
      all_goals rcases ht : ChunkReader.readMessage.run t.reader with ⟨e' | msg', r'⟩
      all_goals rw [hs, ht] at hout hend
      all_goals cases hout
      · simp only
        split_ifs
        · exact ⟨rfl, hd.latch _ _ (h.withReader hend)⟩
        · exact ⟨rfl, h.withReader hend⟩
      · have hserve : Respects Alike (d.serve msg) :=
          Session.Bookkeeping.maybeSendAck.alike.bind fun _ => hd.onWire msg
        obtain ⟨hout, hend⟩ := hserve _ _ (h.withReader hend)
        exact settle_alike hout hend
    · obtain ⟨hout, hend⟩ := hd.onSub sub _ _ (h.withQueue rest)
      exact settle_alike hout hend

/-- A call on alike sessions returns the same. -/
theorem Respecting.next (hd : d.Respecting) {s t : Session τ} (h : Alike s t) :
    (d.next s).1 = (d.next t).1 ∧ Alike (d.next s).2 (d.next t).2 := by
  induction s using d.next_induct generalizing t with
  | h s ih =>
      obtain ⟨hout, hend⟩ := hd.round h
      rcases hs : d.round s with ⟨_ | o, s'⟩
      all_goals rcases ht : d.round t with ⟨_ | o', t'⟩
      all_goals rw [hs, ht] at hout hend
      all_goals cases hout
      · rw [d.next_of_none hs, d.next_of_none ht]
        exact ih s' hs hend
      · rw [d.next_of_some hs, d.next_of_some ht]
        exact ⟨rfl, hend⟩

/-- Calls on alike sessions return the same, however many. -/
theorem Respecting.calls (hd : d.Respecting) (n : ℕ) {s t : Session τ} (h : Alike s t) :
    (d.calls n s).1 = (d.calls n t).1 := by
  induction n generalizing s t with
  | zero => rfl
  | succ n ih =>
      obtain ⟨hout, hend⟩ := hd.next h
      rw [Dispatcher.calls, Dispatcher.calls, hout, ih hend]

end Dispatcher

namespace RtmpSession

open Eff (Respects)
open Session

lemma respecting : dispatcher.Respecting where
  onSub msg := handleMessage_handled (alike_handled msg)
  onWire msg := handleMessage_handled (alike_handled msg)
  latch _ _ h := h

/-- **Bookkeeping is invisible**: alike sessions return the same packets. -/
theorem calls_alike (n : ℕ) {s t : RtmpSession} (h : Alike s t) :
    (dispatcher.calls n s).1 = (dispatcher.calls n t).1 :=
  respecting.calls n h

end RtmpSession

end Rtmp
