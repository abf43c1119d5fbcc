import Rtmp.Chunk.Walk
import Rtmp.Session.Alike
import Rtmp.Session.Client
import Rtmp.Session.Play
import Rtmp.Session.Player
import Rtmp.Session.Rounds

/-!
The accounts behind the acknowledgements.

* `Ledger`: the bytes a reader was given, as a number without end, and where its window restarted;
* `ChunkReader.Entry`: everything that happens to a reader, with the ledger kept along;
* `ChunkReader.ackDue_of_kept`: the 32-bit counters say what the ledger says, however often they
  wrapped;
* `Session.Adjusting`: what a handler does to a reader, which no handler does without restarting the
  window;
* `Dispatcher.Pumps`: a connection that has served a message off the wire does not owe a full window;
* `acknowledgement_exact` (**accounting**): both, for every reader and for the four connections.
-/

namespace Rtmp

/-- The bytes a reader was given, and how many of them there were when its window was last set or
acknowledged. -/
structure Ledger where
  received : ℕ := 0
  marked : ℕ := 0

namespace Ledger

def receive (n : ℕ) (l : Ledger) : Ledger := { l with received := l.received + n }

def mark (l : Ledger) : Ledger := { l with marked := l.received }

/-- The bytes that were not acknowledged. -/
def unacked (l : Ledger) : ℕ := l.received - l.marked

/-- A full window was not acknowledged; no window is never full. -/
def Owes (l : Ledger) (window : UInt32) : Prop := window ≠ 0 ∧ window.toNat ≤ l.unacked

instance (l : Ledger) (window : UInt32) : Decidable (l.Owes window) := instDecidableAnd

@[simp] lemma receive_zero (l : Ledger) : l.receive 0 = l := rfl

lemma receive_receive (l : Ledger) (n m : ℕ) : (l.receive n).receive m = l.receive (n + m) := by
  simp [receive, Nat.add_assoc]

end Ledger

namespace ChunkReader

open Relation (ReflTransGen)

/-- One thing that happens to a reader: bytes are read, or a read fails and gives none; the window is
set; an acknowledgement is asked for; and what has nothing to do with the counters. -/
inductive Entry : ChunkReader × Ledger → ChunkReader × Ledger → Prop
  | read {r r' : ChunkReader} {l : Ledger} {n : ℕ} {bs : List UInt8}
      (h : (readExactCounted n).run r = (.ok bs, r')) : Entry (r, l) (r', l.receive n)
  | fails {r r' : ChunkReader} {l : Ledger} {n : ℕ} {e : Error}
      (h : (readExactCounted n).run r = (.error e, r')) : Entry (r, l) (r', l)
  | setWindowAckSize (r : ChunkReader) (l : Ledger) (size : UInt32) :
      Entry (r, l) (r.setWindowAckSize size, l.mark)
  | ackDue (r : ChunkReader) (l : Ledger) :
      Entry (r, l) (r.ackDue.2, if r.ackDue.1.isSome then l.mark else l)
  | setChunkSize (r : ChunkReader) (l : Ledger) (size : ℕ) : Entry (r, l) (r.setChunkSize size, l)
  | setState (r : ChunkReader) (l : Ledger) (csid : UInt32) (st : InState) :
      Entry (r, l) (r.setState csid st, l)

/-- The counters are those of the ledger, as far as 32 bits go. -/
structure Kept (r : ChunkReader) (l : Ledger) : Prop where
  received : r.receivedBytes = UInt32.ofNat l.received
  marked : r.lastAckBytes = UInt32.ofNat l.marked
  le : l.marked ≤ l.received

lemma kept_new (es : List ReadEvent) : Kept (new es) {} := ⟨rfl, rfl, Nat.le_refl 0⟩

/-- Asking for an acknowledgement marks it as sent, or does nothing. -/
lemma ackDue_cases (r : ChunkReader) :
    r.ackDue = (none, r) ∨
      r.ackDue = (some r.receivedBytes, { r with lastAckBytes := r.receivedBytes }) := by
  rw [ackDue]
  split_ifs
  · exact .inl rfl
  · exact .inr rfl
  · exact .inl rfl

/-- Whatever happens, the counters stay those of the ledger. -/
lemma Kept.entry {p q : ChunkReader × Ledger} (hp : Kept p.1 p.2) (h : Entry p q) : Kept q.1 q.2 := by
  cases h with
  | @read r r' l n bs h =>
      obtain ⟨-, -, hr⟩ := readExactCounted_eq_ok h
      rw [hr]
      refine ⟨?_, hp.marked, hp.le.trans (Nat.le_add_right _ _)⟩
      have hsum : UInt32.ofNat (l.received + n) = r.receivedBytes + UInt32.ofNat n := by
        rw [UInt32.ofNat_add, hp.received]
      exact hsum.symm
  | @fails r r' l n e h =>
      rw [run_readExactCounted] at h
      rcases hread : readExact n r.stream with ⟨kind | bs, rest⟩ <;> rw [hread] at h <;> cases h
      exact ⟨hp.received, hp.marked, hp.le⟩
  | setWindowAckSize r l size => exact ⟨hp.received, hp.received, Nat.le_refl _⟩
  | ackDue r l =>
      rcases ackDue_cases r with hdue | hdue <;> simp only [hdue]
      · exact hp
      · exact ⟨hp.received, hp.received, Nat.le_refl _⟩
  | setChunkSize r l size => exact ⟨hp.received, hp.marked, hp.le⟩
  | setState r l csid st => exact ⟨hp.received, hp.marked, hp.le⟩

/-- The run lemma: so they stay over any number of things that happen. -/
lemma Kept.entries {p q : ChunkReader × Ledger} (hp : Kept p.1 p.2) (h : ReflTransGen Entry p q) :
    Kept q.1 q.2 := by
  induction h with
  | refl => exact hp
  | tail _ hentry ih => exact ih.entry hentry

variable {r : ChunkReader} {l : Ledger}

/-- The difference of the counters is the number of bytes that were not acknowledged, unless that is a
whole turn of the counters or more. -/
lemma Kept.toNat_sub (h : Kept r l) (hopen : l.unacked < 2 ^ 32) :
    (r.receivedBytes - r.lastAckBytes).toNat = l.unacked := by
  have hle := h.le
  rw [Ledger.unacked] at hopen ⊢
  rw [h.received, h.marked, UInt32.toNat_sub, UInt32.toNat_ofNat', UInt32.toNat_ofNat']
  omega

/-- The reader owes a full window by its counters. -/
def Owes (r : ChunkReader) : Prop :=
  r.windowAckSize ≠ 0 ∧ r.windowAckSize ≤ r.receivedBytes - r.lastAckBytes

lemma Kept.owes_iff (h : Kept r l) (hopen : l.unacked < 2 ^ 32) :
    r.Owes ↔ l.Owes r.windowAckSize := by
  rw [Owes, Ledger.Owes, UInt32.le_iff_toNat_le, h.toNat_sub hopen]

/-- An acknowledgement is due exactly when the ledger shows a full window, and it carries the number
of bytes received, modulo `2^32`. -/
theorem ackDue_of_kept (h : Kept r l) (hopen : l.unacked < 2 ^ 32) :
    r.ackDue.1 = if l.Owes r.windowAckSize then some (UInt32.ofNat l.received) else none := by
  have howes := h.owes_iff hopen
  rw [ackDue]
  by_cases hzero : r.windowAckSize = 0
  · rw [if_pos hzero, if_neg fun ho => ho.1 hzero]
  · rw [if_neg hzero]
    by_cases hfull : r.windowAckSize ≤ r.receivedBytes - r.lastAckBytes
    · rw [if_pos hfull, if_pos (howes.mp ⟨hzero, hfull⟩), h.received]
    · rw [if_neg hfull, if_neg fun ho => hfull (howes.mpr ho).2]

/-- Once it was asked for, an acknowledgement is not due. -/
lemma not_owes_ackDue (r : ChunkReader) : ¬ r.ackDue.2.Owes := by
  rw [ackDue]
  split_ifs with hzero hfull
  · exact fun ho => ho.1 hzero
  · rintro ⟨-, hle⟩
    rw [UInt32.sub_self] at hle
    exact hzero (UInt32.le_zero_iff.mp hle)
  · exact fun ho => hfull ho.2

lemma not_owes_setWindowAckSize (r : ChunkReader) (size : UInt32) :
    ¬ (r.setWindowAckSize size).Owes := by
  rintro ⟨hne, hle⟩
  have hself : r.receivedBytes - r.receivedBytes = 0 := UInt32.sub_self _
  exact hne (UInt32.le_zero_iff.mp (hself ▸ hle))

/-! ### Reading a message -/

variable {α β : Type}

/-- The operation does nothing to the counters but count what it reads, and a success has read
everything it took off the stream. -/
def Charges (x : ReaderM α) : Prop :=
  ∀ r l, ∃ n, ReflTransGen Entry (r, l) ((x.run r).2, l.receive n) ∧
    ∀ a, (x.run r).1 = .ok a → r.stream.length = n + (x.run r).2.stream.length

namespace Charges

/-- An operation that leaves the reader alone. -/
lemma of_still {x : ReaderM α} (h : ∀ r, (x.run r).2 = r) : Charges x := by
  intro r l
  rw [h]
  exact ⟨0, .refl, fun _ _ => (Nat.zero_add _).symm⟩

lemma pure (a : α) : Charges (pure a : ReaderM α) := of_still fun _ => rfl

lemma readExactCounted (n : ℕ) : Charges (readExactCounted n) := by
  intro r l
  rcases hread : (ChunkReader.readExactCounted n).run r with ⟨e | bs, r'⟩
  · exact ⟨0, .single (.fails hread), fun _ ha => by cases ha⟩
  · obtain ⟨hlen, hstream, -⟩ := readExactCounted_eq_ok hread
    refine ⟨n, .single (.read hread), fun _ _ => ?_⟩
    rw [hstream, List.length_append, ReadEvent.length_bytes, hlen]

lemma setState (csid : UInt32) (st : InState) :
    Charges (Eff.modify (ChunkReader.setState csid st)) := fun r l =>
  ⟨0, .single (.setState r l csid st), fun _ _ => (Nat.zero_add _).symm⟩

lemma requireState (csid : UInt32) (text : String) : Charges (requireState csid text) :=
  of_still fun r => by
    rw [run_requireState]
    cases r.states csid <;> rfl

lemma bind {x : ReaderM α} {f : α → ReaderM β} (hx : Charges x) (hf : ∀ a, Charges (f a)) :
    Charges (x >>= f) := by
  intro r l
  obtain ⟨n, hfirst, hn⟩ := hx r l
  rw [Eff.run_bind]
  rcases hrun : x.run r with ⟨e | a, r'⟩
  · rw [hrun] at hfirst
    exact ⟨n, hfirst, fun _ ha => by cases ha⟩
  · rw [hrun] at hfirst hn
    obtain ⟨m, hsecond, hm⟩ := hf a r' (l.receive n)
    rw [Ledger.receive_receive] at hsecond
    refine ⟨n + m, hfirst.trans hsecond, fun b hb => ?_⟩
    calc r.stream.length
        = n + r'.stream.length := hn a rfl
      _ = n + (m + ((f a).run r').2.stream.length) := by rw [← hm b hb]
      _ = n + m + ((f a).run r').2.stream.length := (Nat.add_assoc _ _ _).symm

lemma closed : Closed fun x => Charges x where
  pure := pure
  bind := bind
  readExactCounted := readExactCounted
  requireState := requireState
  setState := setState
  gets _ := of_still fun _ => rfl
  exhausted := of_still fun _ => rfl

/-- Reading a message counts the bytes it takes. -/
theorem readMessage : Charges readMessage := fun r l =>
  closed.readChunks (r.stream.length + 1) r l

end Charges

end ChunkReader

/-! ### What handlers do to a reader -/

namespace Session

open Relation (ReflTransGen)

variable {τ α : Type}

/-- One thing a handler does to the reader. -/
inductive Adjusts : ChunkReader → ChunkReader → Prop
  | setChunkSize (r : ChunkReader) (size : ℕ) : Adjusts r (r.setChunkSize size)
  | setWindowAckSize (r : ChunkReader) (size : UInt32) : Adjusts r (r.setWindowAckSize size)

/-- The reader was adjusted, any number of times. -/
def Adjusting (s t : Session τ) : Prop := ReflTransGen Adjusts s.reader t.reader

instance : Std.Refl (Adjusting (τ := τ)) := ⟨fun _ => .refl⟩

instance : IsTrans (Session τ) Adjusting := ⟨fun _ _ _ hst htu => ReflTransGen.trans hst htu⟩

section Adjusts

variable {r r' : ChunkReader}

/-- A reader that does not owe a full window does not owe one after an adjustment. -/
lemma not_owes_adjusts (h : ReflTransGen Adjusts r r') (hr : ¬ r.Owes) : ¬ r'.Owes := by
  induction h with
  | refl => exact hr
  | @tail u v _ hstep ih =>
      cases hstep with
      | setChunkSize size => exact ih
      | setWindowAckSize size => exact u.not_owes_setWindowAckSize size

/-- An adjustment is accounted for, and reads nothing. -/
lemma entries_adjusts (h : ReflTransGen Adjusts r r') (l : Ledger) :
    ∃ l', ReflTransGen ChunkReader.Entry (r, l) (r', l') ∧ l'.received = l.received ∧
      r'.stream = r.stream := by
  induction h with
  | refl => exact ⟨l, .refl, rfl, rfl⟩
  | @tail u v _ hstep ih =>
      obtain ⟨l', hentries, hreceived, hstream⟩ := ih
      cases hstep with
      | setChunkSize size =>
          exact ⟨l', hentries.tail (.setChunkSize u l' size), hreceived, hstream⟩
      | setWindowAckSize size =>
          exact ⟨l'.mark, hentries.tail (.setWindowAckSize u l' size), hreceived, hstream⟩

end Adjusts

lemma adjusting_onWriter (x : WriterM α) : Eff.Along Adjusting (onWriter x : SessionM τ α) :=
  fun _ => .refl

lemma adjusting_setWindowAckSize (size : UInt32) : Eff.Along Adjusting
    (onReader (Eff.modify (ChunkReader.setWindowAckSize size)) : SessionM τ Unit) :=
  fun s => .single (.setWindowAckSize s.reader size)

lemma adjusting_handleSetChunkSize (msg : Message) :
    Eff.Along Adjusting (handleSetChunkSize msg : SessionM τ Unit) :=
  (Eff.Along.ofExcept _).bind fun _ s => .single (.setChunkSize s.reader _)

lemma adjusting_handleWindowAckSize (msg : Message) :
    Eff.Along Adjusting (handleWindowAckSize msg : SessionM τ Unit) :=
  (Eff.Along.ofExcept _).bind fun _ => adjusting_setWindowAckSize _

lemma adjusting_handleSetPeerBandwidth (msg : Message) :
    Eff.Along Adjusting (handleSetPeerBandwidth msg : SessionM τ Unit) := by
  have happly : ∀ window limitType, Eff.Along Adjusting
      (applyPeerBandwidth window limitType : SessionM τ (Option UInt32)) := fun _ _ _ => .refl
  refine (Eff.Along.ofExcept _).bind fun limit => (happly _ _).bind fun changed => ?_
  cases changed with
  | none => exact .pure _
  | some w => exact (adjusting_setWindowAckSize w).bind fun _ => adjusting_onWriter _

lemma adjusting_handleAggregate (msg : Message) :
    Eff.Along Adjusting (handleAggregate msg : SessionM τ Unit) :=
  (Eff.Along.ofExcept _).bind fun _ _ => .refl

/-- No handler does anything else to the reader. -/
lemma adjusting_handled (msg : Message) :
    Handled (τ := τ) msg (Eff.Along Adjusting) (Eff.Along Adjusting) := by
  refine .of_closed ?_ adjusting_handleSetChunkSize adjusting_handleWindowAckSize
    adjusting_handleSetPeerBandwidth adjusting_handleAggregate msg
  exact ⟨fun x => .ofExcept x, fun hx hf => hx.bind hf, fun _ => adjusting_onWriter _,
    fun _ _ _ => .refl⟩

end Session

open Session

/-! ### The loop -/

namespace Dispatcher

open Relation (ReflTransGen)

variable {τ α : Type} {d : Dispatcher τ α} {s t u : Session τ}

/-- The handlers do nothing to the reader but adjust it. -/
structure AdjustsOnly (d : Dispatcher τ α) : Prop where
  onSub : ∀ msg, Eff.Along Adjusting (d.onSub msg)
  onWire : ∀ msg, Eff.Along Adjusting (d.onWire msg)

/-- A round of the loop that serves a message off the wire, whatever becomes of it. -/
def ServesWire (d : Dispatcher τ α) (s t : Session τ) : Prop :=
  s.ended = false ∧ s.pendingSubs = [] ∧ (∃ msg, (ChunkReader.readMessage.run s.reader).1 = .ok msg) ∧
    (d.round s).2 = t

/-- A round that serves a message off the wire or from the queue. -/
def ServesMessage (d : Dispatcher τ α) (s t : Session τ) : Prop :=
  d.ServesWire s t ∨ s.ended = false ∧ s.pendingSubs ≠ [] ∧ (d.round s).2 = t

/-- A message off the wire is read, acknowledged if that is due, and handled. -/
lemma AdjustsOnly.servesWire (hd : d.AdjustsOnly) (h : d.ServesWire s t) :
    ∃ msg r, ChunkReader.readMessage.run s.reader = (.ok msg, r) ∧
      ReflTransGen Adjusts r.ackDue.2 t.reader := by
  obtain ⟨hopen, hqueue, ⟨msg, hmsg⟩, rfl⟩ := h
  refine ⟨msg, _, Prod.ext hmsg rfl, ?_⟩
  rw [d.round_of_read hopen hqueue (Prod.ext hmsg rfl), snd_settle]
  set r := (ChunkReader.readMessage.run s.reader).2
  obtain ⟨_, v, hack, -⟩ := Bookkeeping.maybeSendAck (s.withReader r)
  have hreader : v.reader = r.ackDue.2 := by
    have hdue : (onReader (Eff.modifyGet ChunkReader.ackDue) : SessionM τ _).run (s.withReader r)
        = (.ok r.ackDue.1, s.withReader r.ackDue.2) := rfl
    rw [maybeSendAck, Eff.run_bind_ok hdue] at hack
    -- an acknowledgement may be written, which the reader does not notice
    cases hseq : r.ackDue.1 with
    | none =>
        rw [hseq] at hack
        cases hack
        rfl
    | some seq =>
        rw [hseq] at hack
        have hkeep := (Eff.Along.of_run (R := fun s t : Session τ => t.reader = s.reader)
          (fun _ => rfl) hack)
        exact hkeep
  rw [serve, Eff.run_bind_ok hack, ← hreader]
  exact hd.onWire msg v

lemma AdjustsOnly.servesSub (hd : d.AdjustsOnly) (hopen : s.ended = false)
    (hqueue : s.pendingSubs ≠ []) : ReflTransGen Adjusts s.reader (d.round s).2.reader := by
  obtain ⟨sub, rest, hqueue⟩ := List.exists_cons_of_ne_nil hqueue
  rw [d.round_of_sub hopen hqueue, snd_settle]
  exact hd.onSub sub (s.withQueue rest)

/-- Serving a message is accounted for, byte by byte. -/
lemma AdjustsOnly.entries (hd : d.AdjustsOnly) (h : d.ServesMessage s t) (l : Ledger) :
    ∃ l', ReflTransGen ChunkReader.Entry (s.reader, l) (t.reader, l') ∧
      l'.received + t.reader.stream.length = l.received + s.reader.stream.length := by
  rcases h with hwire | ⟨hopen, hqueue, rfl⟩
  · obtain ⟨msg, r, hread, hadjusts⟩ := hd.servesWire hwire
    obtain ⟨n, hentries, hn⟩ := ChunkReader.Charges.readMessage s.reader l
    rw [hread] at hentries hn
    have hdue : (r.ackDue.2).stream = r.stream := by
      rcases r.ackDue_cases with h | h <;> rw [h]
    obtain ⟨l', hmore, hreceived, hstream⟩ := entries_adjusts hadjusts
      (if r.ackDue.1.isSome then (l.receive n).mark else l.receive n)
    refine ⟨l', (hentries.tail (.ackDue r _)).trans hmore, ?_⟩
    have htaken : s.reader.stream.length = n + r.stream.length := hn msg rfl
    have hsame : l'.received = l.received + n := by
      rw [hreceived]
      split_ifs <;> rfl
    rw [hsame, hstream, hdue, htaken]
    exact Nat.add_assoc _ _ _
  · obtain ⟨l', hentries, hreceived, hstream⟩ := entries_adjusts (hd.servesSub hopen hqueue) l
    exact ⟨l', hentries, by rw [hreceived, hstream]⟩

/-- Once a message off the wire was served, no full window is owed by the counters, and none will be
while messages are served. -/
lemma AdjustsOnly.not_owes (hd : d.AdjustsOnly) (h : d.ServesWire s t)
    (hmore : ReflTransGen d.ServesMessage t u) : ¬ u.reader.Owes := by
  have hwire : ∀ {s t : Session τ}, d.ServesWire s t → ¬ t.reader.Owes := by
    intro s t h
    obtain ⟨msg, r, -, hadjusts⟩ := hd.servesWire h
    exact not_owes_adjusts hadjusts r.not_owes_ackDue
  induction hmore with
  | refl => exact hwire h
  | tail _ hstep ih =>
      rcases hstep with hstep | ⟨hopen, hqueue, rfl⟩
      · exact hwire hstep
      · exact not_owes_adjusts (hd.servesSub hopen hqueue) ih

/-- Let the connection serve a message off the wire, and then any number of messages.  Then all that
happened to its reader is on the ledger, with every byte that was taken off the wire; and if fewer
bytes than a whole turn of the counters are not acknowledged, they are less than a full window. -/
def Pumps (d : Dispatcher τ α) : Prop :=
  ∀ (s t u : Session τ), d.ServesWire s t → ReflTransGen d.ServesMessage t u →
    (∀ l, ∃ l', ReflTransGen ChunkReader.Entry (s.reader, l) (u.reader, l') ∧
      l'.received + u.reader.stream.length = l.received + s.reader.stream.length) ∧
    ∀ es l, ReflTransGen ChunkReader.Entry (.new es, {}) (u.reader, l) → l.unacked < 2 ^ 32 →
      ¬ l.Owes u.reader.windowAckSize

lemma AdjustsOnly.pumps (hd : d.AdjustsOnly) : d.Pumps := by
  intro s t u hwire hmore
  refine ⟨fun l => ?_, fun es l hentries hopen => ?_⟩
  · induction hmore with
    | refl => exact hd.entries (.inl hwire) l
    | tail _ hstep ih =>
        obtain ⟨l', hentries, hreceived⟩ := ih
        obtain ⟨l'', hlast, hlastReceived⟩ := hd.entries hstep l'
        exact ⟨l'', hentries.trans hlast, hlastReceived.trans hreceived⟩
  · have hkept := (ChunkReader.kept_new es).entries hentries
    exact fun howes => hd.not_owes hwire hmore ((hkept.owes_iff hopen).mpr howes)

end Dispatcher

open Relation (ReflTransGen)

/-- **Accounting**.  Whatever happens to a reader, an acknowledgement is due exactly when a full
window was received since the last one, or since the window was set, and it carries the number of
bytes received modulo `2^32`; and each of the four connections, which asks for it after every message
off the wire, never goes on reading with a full window to acknowledge. -/
theorem acknowledgement_exact :
    (∀ es r l, ReflTransGen ChunkReader.Entry (.new es, {}) (r, l) → l.unacked < 2 ^ 32 →
      r.ackDue.1 = if r.windowAckSize ≠ 0 ∧ r.windowAckSize.toNat ≤ l.received - l.marked
        then some (UInt32.ofNat l.received) else none) ∧
    RtmpSession.dispatcher.Pumps ∧ PlaySession.dispatcher.Pumps ∧ RtmpPlayer.dispatcher.Pumps ∧
      RtmpClient.dispatcher.Pumps := by
  have hsession : RtmpSession.dispatcher.AdjustsOnly :=
    ⟨fun msg => RtmpSession.handleMessage_handled (adjusting_handled msg),
      fun msg => RtmpSession.handleMessage_handled (adjusting_handled msg)⟩
  have hplay : PlaySession.dispatcher.AdjustsOnly :=
    ⟨fun msg => PlaySession.handleEventMessage_handled (adjusting_handled msg),
      fun msg => PlaySession.handleEventMessage_handled (adjusting_handled msg)⟩
  have hplayer : RtmpPlayer.dispatcher.AdjustsOnly :=
    ⟨fun msg => RtmpPlayer.handleMessage_handled (adjusting_handled msg),
      fun msg => RtmpPlayer.handleMessage_handled (adjusting_handled msg)⟩
  have hclient : RtmpClient.dispatcher.AdjustsOnly :=
    ⟨fun msg => RtmpClient.handleSub_handled (adjusting_handled msg),
      fun msg => RtmpClient.handleWire_handled (adjusting_handled msg)⟩
  refine ⟨fun es r l hentries hopen => ?_, hsession.pumps, hplay.pumps, hplayer.pumps, hclient.pumps⟩
  have hkept := (ChunkReader.kept_new es).entries hentries
  exact ChunkReader.ackDue_of_kept hkept hopen

/-- A reader with a window of two that has read three bytes since. -/
theorem acknowledgement_exact_three :
    let r : ChunkReader :=
      ((ChunkReader.new (ReadEvent.bytes [1, 2, 3])).setWindowAckSize 2).advance 3 []
    r.ackDue.1 = some 3 := by
  intro r
  have hread : (ChunkReader.readExactCounted 3).run
      ((ChunkReader.new (ReadEvent.bytes [1, 2, 3])).setWindowAckSize 2) = (.ok [1, 2, 3], r) := rfl
  have hentries : ReflTransGen ChunkReader.Entry (.new (ReadEvent.bytes [1, 2, 3]), {})
      (r, { received := 3, marked := 0 }) :=
    (ReflTransGen.single (.setWindowAckSize _ _ 2)).tail (.read hread)
  exact acknowledgement_exact.1 _ _ _ hentries (by decide)

end Rtmp
