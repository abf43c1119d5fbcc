import Rtmp.Session.Alike
import Rtmp.Session.Player

/-!
Abort messages: when a session that swallows one does what a session that obeys it would do.

* `Dispatcher.tick`: one chunk or one queued message, and `next_eq_tick`: a call is ticks up to a
  result;
* `Session.forget`: the session that gave up the message a chunk stream was in the middle of;
* `Dispatcher.Restarts`: the next message on the chunk stream is opened by a header of its own;
* `tick_forget`, `trace_forget`, `calls_forget`: then both sessions dispatch and return the same;
* `swallowed_abort` (**Abort**): this for each of the four kinds of sessions.
-/

namespace Rtmp

namespace Session

variable {τ α : Type}

/-- The session without what its reader holds of a message on `k`. -/
def forget (k : UInt32) (s : Session τ) : Session τ := s.withReader (s.reader.forget k)

/-- The handlers of a session do not look at what its reader holds. -/
lemma Detached.forget {x : SessionM τ α} (hx : Detached x) (k : UInt32) (s : Session τ) :
    x.run (s.forget k) = ((x.run s).1, (x.run s).2.forget k) := by
  have hrun := hx s.reader.stream (s.reader.forget k).states s
  have hstream := hx.stream_eq s
  have hstates := hx.states_eq s
  have hwire : s.withWire s.reader.stream (s.reader.forget k).states = s.forget k := rfl
  rw [hwire] at hrun
  rw [hrun]
  refine Prod.ext rfl ?_
  simp only [Session.forget, withWire, withReader, ChunkReader.forget, hstream, hstates]

end Session

namespace Dispatcher

open ChunkReader (readChunk readHeader)

variable {τ α : Type} (d : Dispatcher τ α) {k : UInt32} {s s' : Session τ}

/-! ### Ticks -/

/-- One chunk off the wire, or one message off the queue: the result of the call, or `none` to go
on. -/
def tick (s : Session τ) : Option (Except Error (Option α)) × Session τ :=
  if s.ended then (some (.ok none), s)
  else
    match s.pendingSubs with
    | sub :: rest => settle ((d.onSub sub).run (s.withQueue rest))
    | [] =>
        match readChunk.run s.reader with
        | (.ok (some msg), r) => settle ((d.serve msg).run (s.withReader r))
        | (.ok none, r) => (none, s.withReader r)
        | (.error e, r) =>
            if d.closes e then (some (.ok none), d.latch (s.withReader r))
            else (some (.error e), s.withReader r)

/-- The message a tick dispatches, if any. -/
def dispatched (s : Session τ) : Option Message :=
  if s.ended then none
  else
    match s.pendingSubs with
    | sub :: _ => some sub
    | [] =>
        match readChunk.run s.reader with
        | (.ok out, _) => out
        | (.error _, _) => none

/-- What the first `n` ticks dispatch and what results they have. -/
def trace : ℕ → Session τ → List (Option Message × Option (Except Error (Option α)))
  | 0, _ => []
  | n + 1, s => (dispatched s, (d.tick s).1) :: trace n (d.tick s).2

/-- The session is about to read off the wire. -/
def Reading (s : Session τ) : Prop := s.ended = false ∧ s.pendingSubs = []

lemma tick_of_reading (h : Reading s) : d.tick s = match readChunk.run s.reader with
    | (.ok (some msg), r) => settle ((d.serve msg).run (s.withReader r))
    | (.ok none, r) => (none, s.withReader r)
    | (.error e, r) =>
        if d.closes e then (some (.ok none), d.latch (s.withReader r))
        else (some (.error e), s.withReader r) := by
  rw [tick, if_neg (by rw [h.1]; exact Bool.false_ne_true), h.2]

lemma tick_shrinks (h : d.tick s = (none, s')) : Shrinks s' s := by
  rw [tick] at h
  by_cases hended : s.ended
  · rw [if_pos hended] at h
    cases h
  rw [if_neg hended] at h
  rcases hqueue : s.pendingSubs with _ | ⟨sub, rest⟩
  · simp only [hqueue] at h
    rcases hread : readChunk.run s.reader with ⟨e | _ | msg, r⟩
    · simp only [hread] at h
      split_ifs at h <;> cases h
    · simp only [hread] at h
      cases h
      exact Prod.Lex.left _ _ (ChunkReader.readChunk_shrinks hread)
    · simp only [hread] at h
      have hshrinks := d.serve_shrinks msg (ChunkReader.readChunk_shrinks hread)
      rwa [settle_eq_none h] at hshrinks
  · simp only [hqueue] at h
    have hshrinks := d.sub_shrinks hqueue
    rwa [settle_eq_none h] at hshrinks

/-- Where a tick is a whole round, a call goes on after it as after the round. -/
lemma next_of_tick {s : Session τ} (h : d.tick s = d.round s) :
    d.next s = match d.tick s with
      | (some out, s') => (out, s')
      | (none, s') => d.next s' := by
  rw [h]
  exact d.next_eq s

/-- **A call, tick by tick.** -/
theorem next_eq_tick (s : Session τ) :
    d.next s = match d.tick s with
      | (some out, s') => (out, s')
      | (none, s') => d.next s' := by
  by_cases hended : s.ended
  · have hround := d.round_of_ended hended
    have htick : d.tick s = (some (.ok none), s) := by rw [tick, if_pos hended]
    rw [htick]
    exact d.next_of_some hround
  · have hopen : s.ended = false := Bool.eq_false_iff.mpr hended
    rcases hqueue : s.pendingSubs with _ | ⟨sub, rest⟩
    · have htick := d.tick_of_reading ⟨hopen, hqueue⟩
      rcases hread : readChunk.run s.reader with ⟨e | _ | msg, r⟩
      · have hround := d.round_of_error hopen hqueue (ChunkReader.readMessage_of_error hread)
        rw [hread] at htick
        exact d.next_of_tick (htick.trans hround.symm)
      · -- The rest of the message is read in both cases.
        have hmessage := ChunkReader.readMessage_of_none hread
        have hround : d.round s = d.round (s.withReader r) := by
          have hended' : ¬ (s.withReader r).ended := hended
          rw [round, round, if_neg hended, if_neg hended', Session.pendingSubs_withReader, hqueue,
            Session.reader_withReader, hmessage]
          rfl
        rw [hread] at htick
        rw [next_eq, hround, htick, ← next_eq]
      · have hround := d.round_of_read hopen hqueue (ChunkReader.readMessage_of_some hread)
        rw [hread] at htick
        exact d.next_of_tick (htick.trans hround.symm)
    · have hround := d.round_of_sub hopen hqueue
      have htick : d.tick s = settle ((d.onSub sub).run (s.withQueue rest)) := by
        rw [tick, if_neg hended, hqueue]
      exact d.next_of_tick (htick.trans hround.symm)

/-! ### A message given up -/

/-- The session is about to read a chunk on `k` whose whole header is there. -/
def Opens (k : UInt32) (s : Session τ) : Prop :=
  Reading s ∧ ∃ fmt, (readHeader.run s.reader).1 = .ok (k, fmt)

/-- The same, and the header has no fields of its own: the chunk continues what is held. -/
def Continues (k : UInt32) (s : Session τ) : Prop :=
  Reading s ∧ (readHeader.run s.reader).1 = .ok (k, 3)

/-- A tick that reads no chunk on `k`. -/
def Off (k : UInt32) (s s' : Session τ) : Prop := ¬ Opens k s ∧ (d.tick s).2 = s'

/-- The first chunk on `k` from here on, if there is one, has a header of its own. -/
def Restarts (k : UInt32) (s : Session τ) : Prop :=
  ∀ u, Relation.ReflTransGen (d.Off k) s u → ¬ Continues k u

variable {d}

lemma Restarts.tick (h : d.Restarts k s) (hoff : ¬ Opens k s) : d.Restarts k (d.tick s).2 :=
  fun u hu => h u (.head ⟨hoff, rfl⟩ hu)

lemma settle_forget (p : Except Error (Option α) × Session τ) :
    settle (p.1, p.2.forget k) = ((settle p).1, (settle p).2.forget k) := by
  rcases p with ⟨_ | _ | ev, t⟩ <;> rfl

lemma latch_forget (s : Session τ) : d.latch (s.forget k) = (d.latch s).forget k := by
  have hlatch : Session.Detached (Eff.modify d.latch : SessionM τ Unit) := .modify d.latch_withWire
  exact congrArg Prod.snd (hlatch.forget k s)

/-- Without a chunk on `k`, a tick does the same in the session that gave the message up. -/
lemma tick_forget (h : ¬ Opens k s) :
    d.tick (s.forget k) = ((d.tick s).1, (d.tick s).2.forget k) := by
  by_cases hended : s.ended
  · have htick : ∀ t : Session τ, t.ended = true → d.tick t = (some (.ok none), t) := fun t ht => by
      rw [tick, if_pos ht]
    rw [htick s hended, htick (s.forget k) hended]
  · have hopen : s.ended = false := Bool.eq_false_iff.mpr hended
    rcases hqueue : s.pendingSubs with _ | ⟨sub, rest⟩
    · -- the chunk that is read is not one of the stream that was forgotten
      have hreading : Reading s := ⟨hopen, hqueue⟩
      have hchunk := ChunkReader.readChunk_forget (k := k) (r := s.reader) fun fmt hfmt =>
        h ⟨hreading, fmt, hfmt⟩
      have htick := d.tick_of_reading hreading
      have htick' := d.tick_of_reading (s := s.forget k) hreading
      have hreader : (s.forget k).reader = s.reader.forget k := rfl
      rw [hreader, hchunk] at htick'
      rw [htick, htick']
      rcases readChunk.run s.reader with ⟨e | _ | msg, r⟩
      · simp only
        split_ifs
        · exact Prod.ext rfl (latch_forget (s.withReader r))
        · rfl
      · rfl
      · have hserve := (d.serve_detached msg).forget k (s.withReader r)
        have hwire : (s.forget k).withReader (r.forget k) = (s.withReader r).forget k := rfl
        simp only [hwire, hserve]
        exact settle_forget _
    · have htick : ∀ t : Session τ, t.ended = false → t.pendingSubs = sub :: rest →
          d.tick t = settle ((d.onSub sub).run (t.withQueue rest)) := fun t ht hsubs => by
        rw [tick, if_neg (by rw [ht]; exact Bool.false_ne_true), hsubs]
      have hsub := (d.onSub_detached sub).forget k (s.withQueue rest)
      have hwire : (s.forget k).withQueue rest = (s.withQueue rest).forget k := rfl
      rw [htick s hopen hqueue, htick (s.forget k) hopen hqueue, hwire, hsub]
      exact settle_forget _

/-- A header of its own makes the sessions the same again. -/
lemma tick_forget_opened (hopens : Opens k s) (hown : ¬ Continues k s) :
    d.tick (s.forget k) = d.tick s ∧ dispatched (s.forget k) = dispatched s := by
  obtain ⟨hreading, fmt, hfmt⟩ := hopens
  have hne : fmt ≠ 3 := fun h => hown ⟨hreading, h ▸ hfmt⟩
  have hchunk : readChunk.run (s.forget k).reader = readChunk.run s.reader :=
    ChunkReader.readChunk_forget_opened hfmt hne
  constructor
  · rw [d.tick_of_reading hreading, d.tick_of_reading (s := s.forget k) hreading, hchunk]
    rfl
  · have hsubs : (s.forget k).pendingSubs = s.pendingSubs := rfl
    have hended : (s.forget k).ended = s.ended := rfl
    rw [dispatched, dispatched, hsubs, hended, hreading.1, hreading.2, hchunk]

lemma dispatched_forget (h : ¬ Opens k s) : dispatched (s.forget k) = dispatched s := by
  have hsubs : (s.forget k).pendingSubs = s.pendingSubs := rfl
  have hended : (s.forget k).ended = s.ended := rfl
  rw [dispatched, dispatched, hsubs, hended]
  by_cases hover : s.ended
  · rw [if_pos hover, if_pos hover]
  · rw [if_neg hover, if_neg hover]
    rcases hqueue : s.pendingSubs with _ | ⟨sub, rest⟩
    · have hreading : Reading s := ⟨Bool.eq_false_iff.mpr hover, hqueue⟩
      have hchunk := ChunkReader.readChunk_forget (k := k) (r := s.reader) fun fmt hfmt =>
        h ⟨hreading, fmt, hfmt⟩
      have hreader : (s.forget k).reader = s.reader.forget k := rfl
      rw [hreader, hchunk]
      rcases readChunk.run s.reader with ⟨e | out, r⟩ <;> rfl
    · rfl

/-- **What is dispatched** does not depend on the message given up. -/
theorem trace_forget (h : d.Restarts k s) (n : ℕ) : d.trace n (s.forget k) = d.trace n s := by
  induction n generalizing s with
  | zero => rfl
  | succ n ih =>
      rw [trace, trace]
      by_cases hopens : Opens k s
      · obtain ⟨htick, hdispatched⟩ := tick_forget_opened (d := d) hopens (h s .refl)
        rw [htick, hdispatched]
      · rw [tick_forget hopens, dispatched_forget hopens, ih (h.tick hopens)]

/-- A call returns the same, and leaves the sessions the same or as far apart as they were. -/
lemma next_forget (h : d.Restarts k s) : d.next (s.forget k) = d.next s ∨
    d.next (s.forget k) = ((d.next s).1, (d.next s).2.forget k) ∧ d.Restarts k (d.next s).2 := by
  induction s using wellFounded_shrinks.induction with
  | _ s ih =>
      rw [d.next_eq_tick s, d.next_eq_tick (s.forget k)]
      by_cases hopens : Opens k s
      · rw [(tick_forget_opened (d := d) hopens (h s .refl)).1]
        exact .inl rfl
      · have hrestarts := h.tick hopens
        rw [tick_forget hopens]
        rcases htick : d.tick s with ⟨_ | out, s'⟩
        · rw [htick] at hrestarts
          exact ih s' (d.tick_shrinks htick) hrestarts
        · rw [htick] at hrestarts
          exact .inr ⟨rfl, hrestarts⟩

/-- **What calls return** does not depend on the message given up. -/
theorem calls_forget (h : d.Restarts k s) (n : ℕ) :
    (d.calls n (s.forget k)).1 = (d.calls n s).1 := by
  induction n generalizing s with
  | zero => rfl
  | succ n ih =>
      rw [calls, calls]
      rcases next_forget h with hsame | ⟨hforget, hrestarts⟩
      · rw [hsame]
      · rw [hforget, ih hrestarts]

/-- The message is passed over: it changes nothing and does not fail. -/
def Swallows (d : Dispatcher τ α) (msg : Message) : Prop :=
  ∀ s, (∃ out, (d.onWire msg).run s = (.ok out, s)) ∧ ∃ out, (d.onSub msg).run s = (.ok out, s)

/-- A tick that dispatches a message that is passed over does not fail. -/
lemma Swallows.tick {msg : Message} (h : d.Swallows msg) (hmsg : dispatched s = some msg) :
    ∀ e, (d.tick s).1 ≠ some (.error e) := by
  have hsettle : ∀ (out : Option α) (t : Session τ) e,
      (settle (.ok out, t) : Option (Except Error (Option α)) × Session τ).1 ≠ some (.error e) := by
    intro out t e heq
    cases out <;> cases heq
  intro e
  rw [dispatched] at hmsg
  rw [Dispatcher.tick]
  by_cases hended : s.ended
  · rw [if_pos hended] at hmsg
    cases hmsg
  · rw [if_neg hended] at hmsg ⊢
    rcases hqueue : s.pendingSubs with _ | ⟨sub, rest⟩
    · rw [hqueue] at hmsg
      -- it read the message, so it did not fail, and the handler does not either
      rcases hread : readChunk.run s.reader with ⟨e' | out, r⟩
      · rw [hread] at hmsg
        cases hmsg
      · rw [hread] at hmsg
        simp only at hmsg
        subst hmsg
        obtain ⟨_, a, hack, -⟩ := Session.Bookkeeping.maybeSendAck (s.withReader r)
        obtain ⟨out, hout⟩ := (h a).1
        have hserve : (d.serve msg).run (s.withReader r) = (.ok out, a) :=
          (Eff.run_bind_ok hack).trans hout
        simp only [hserve]
        exact hsettle out a e
    · rw [hqueue] at hmsg
      cases hmsg
      obtain ⟨out, hout⟩ := (h (s.withQueue rest)).2
      simp only [hout]
      exact hsettle out _ e

/-- Once `msg` was dispatched, the session goes on as if it had given up what it held of a message
on `k`, as long as it held none or the next one on `k` has a header of its own. -/
def HonoursAbort (d : Dispatcher τ α) (k : UInt32) (msg : Message) : Prop :=
  ∀ s, dispatched s = some msg →
    (∀ e, (d.tick s).1 ≠ some (.error e)) ∧
      (((d.tick s).2.reader.abortPartial k).1 = false ∨ d.Restarts k (d.tick s).2 →
        let aborted := (d.tick s).2.withReader ((d.tick s).2.reader.abortPartial k).2
        ∀ n, d.trace n (d.tick s).2 = d.trace n aborted ∧
          (d.calls n (d.tick s).2).1 = (d.calls n aborted).1)

lemma Swallows.honoursAbort {msg : Message} (h : d.Swallows msg) (k : UInt32) :
    d.HonoursAbort k msg := by
  refine fun s hmsg => ⟨h.tick hmsg, fun hcond => ?_⟩
  intro aborted n
  rcases hcond with hnone | hrestarts
  · have haborted : aborted = (d.tick s).2 :=
      congrArg (fun r => (d.tick s).2.withReader r) (ChunkReader.abortPartial_of_false hnone)
    rw [haborted]
    exact ⟨rfl, rfl⟩
  · have haborted : aborted = (d.tick s).2.forget k :=
      congrArg (fun r => (d.tick s).2.withReader r) (ChunkReader.abortPartial_snd k _)
    rw [haborted]
    exact ⟨(trace_forget hrestarts n).symm, (calls_forget hrestarts n).symm⟩

end Dispatcher

/-! ### The four sessions -/

/-- The message aborts what is on its way on `k`. -/
def IsAbort (k : UInt32) (msg : Message) : Prop :=
  msg.msgTypeId = msgAbort ∧ msg.payload = Bytes.toBe 4 k.toNat

namespace IsAbort

variable {k : UInt32} {msg : Message}

lemma ne (h : IsAbort k msg) {ty : UInt8} (hty : ty ≠ msgAbort) : msg.msgTypeId ≠ ty :=
  fun heq => hty (heq.symm.trans h.1)

lemma swallowed_rtmpSession (h : IsAbort k msg) : RtmpSession.dispatcher.Swallows msg := by
  have hhandle : RtmpSession.handleMessage msg = pure none := by
    rw [RtmpSession.handleMessage, if_neg (h.ne (by decide)), if_neg (h.ne (by decide)),
      if_neg (h.ne (by decide)), if_neg (h.ne (by decide)), if_neg (h.ne (by decide)),
      if_neg (h.ne (by decide)), if_neg (not_or.mpr ⟨h.ne (by decide), h.ne (by decide)⟩),
      if_neg (h.ne (by decide)), if_neg (h.ne (by decide)), if_neg (h.ne (by decide)),
      if_neg (h.ne (by decide))]
  have hrun : ∀ s, (RtmpSession.handleMessage msg).run s = (.ok none, s) := by
    rw [hhandle]
    exact fun _ => rfl
  exact fun s => ⟨⟨none, hrun s⟩, none, hrun s⟩

lemma swallowed_playSession (h : IsAbort k msg) : PlaySession.dispatcher.Swallows msg := by
  have hhandle : PlaySession.handleEventMessage msg = pure none := by
    rw [PlaySession.handleEventMessage, if_neg (h.ne (by decide)), if_neg (h.ne (by decide)),
      if_neg (not_or.mpr ⟨h.ne (by decide), h.ne (by decide)⟩), if_neg (h.ne (by decide)),
      if_neg (h.ne (by decide)), if_neg (h.ne (by decide)), if_neg (h.ne (by decide)),
      if_neg (h.ne (by decide))]
  have hrun : ∀ s, (PlaySession.handleEventMessage msg).run s = (.ok none, s) := by
    rw [hhandle]
    exact fun _ => rfl
  exact fun s => ⟨⟨none, hrun s⟩, none, hrun s⟩

lemma swallowed_rtmpClient (h : IsAbort k msg) : RtmpClient.dispatcher.Swallows msg := by
  have hclassify : RtmpClient.classifyMessage msg = pure .other := by
    rw [RtmpClient.classifyMessage, if_neg (h.ne (by decide)), if_neg (h.ne (by decide)),
      if_neg (h.ne (by decide)), if_neg (h.ne (by decide)), if_neg (h.ne (by decide)),
      if_neg (h.ne (by decide)), if_neg (h.ne (by decide)),
      if_neg (not_or.mpr ⟨h.ne (by decide), h.ne (by decide)⟩), if_neg (h.ne (by decide))]
  have hsub : ∀ s, (RtmpClient.handleSub msg).run s = (.ok none, s) := by
    rw [RtmpClient.handleSub, hclassify]
    exact fun _ => rfl
  have hwire : ∀ s, (RtmpClient.handleWire msg).run s = (.ok (some .other), s) := by
    rw [RtmpClient.handleWire, if_neg (h.ne (by decide)), hclassify]
    exact fun _ => rfl
  exact fun s => ⟨⟨some .other, hwire s⟩, none, hsub s⟩

lemma swallowed_rtmpPlayer (h : IsAbort k msg) : RtmpPlayer.dispatcher.Swallows msg := by
  have hhandle : RtmpPlayer.handleMessage msg = pure none := by
    rw [RtmpPlayer.handleMessage, if_neg (h.ne (by decide)), if_neg (h.ne (by decide)),
      if_neg (h.ne (by decide)), if_neg (h.ne (by decide)), if_neg (h.ne (by decide)),
      if_neg (h.ne (by decide)), if_neg (not_or.mpr ⟨h.ne (by decide), h.ne (by decide)⟩),
      if_neg (h.ne (by decide)), if_neg (h.ne (by decide)), if_neg (h.ne (by decide)),
      if_neg (h.ne (by decide)), if_neg (h.ne (by decide))]
  have hrun : ∀ s, (RtmpPlayer.handleMessage msg).run s = (.ok none, s) := by
    rw [hhandle]
    exact fun _ => rfl
  exact fun s => ⟨⟨none, hrun s⟩, none, hrun s⟩

end IsAbort

/-- **Abort**.  None of the sessions acts on an abort message.  In every run after one, what is
dispatched and what calls return is what it would be had the reader given the message up, as long as
there was none to give up or the next one on that chunk stream has a header of its own. -/
theorem swallowed_abort {k : UInt32} {msg : Message} (h : IsAbort k msg) :
    RtmpSession.dispatcher.HonoursAbort k msg ∧ PlaySession.dispatcher.HonoursAbort k msg ∧
      RtmpClient.dispatcher.HonoursAbort k msg ∧ RtmpPlayer.dispatcher.HonoursAbort k msg :=
  ⟨h.swallowed_rtmpSession.honoursAbort k, h.swallowed_playSession.honoursAbort k,
    h.swallowed_rtmpClient.honoursAbort k, h.swallowed_rtmpPlayer.honoursAbort k⟩

namespace RtmpSession

open Session Dispatcher

/-- A publish session that reads chunks of four bytes, right after the first chunk of an audio
message of six bytes on chunk stream 4; an abort of that chunk stream comes next, then `rest`. -/
def amidAudio (rest : List UInt8) : RtmpSession :=
  (dispatcher.tick (opened (ChunkReader.setChunkSize 4 (.new (ReadEvent.bytes
    ([0x04, 0, 0, 0, 0, 0, 6, 8, 1, 0, 0, 0, 0xAF, 0x01, 0x21, 0x22]
      ++ [0x02, 0, 0, 0, 0, 0, 4, 2, 0, 0, 0, 0, 0, 0, 0, 4] ++ rest))))
    .new ⟨"live", "cam", "live", 1, []⟩)).2

/-- The next audio message has a header of its own. -/
theorem swallowed_abort_restarted :
    let s := amidAudio [0x04, 0, 0, 0, 0, 0, 3, 8, 1, 0, 0, 0, 0xAF, 0x01, 0x31]
    let t := (dispatcher.tick s).2
    ∀ n, (dispatcher.calls n t).1
      = (dispatcher.calls n (t.withReader (t.reader.abortPartial 4).2)).1 := by
  intro s t n
  have hmsg : dispatched s = some (buildAbort 4) := by decide +kernel
  have hheader : (ChunkReader.readHeader.run t.reader).1 = .ok (4, 0) := by rfl
  have hopens : Opens 4 t := ⟨⟨rfl, rfl⟩, 0, hheader⟩
  have hrestarts : dispatcher.Restarts 4 t := by
    intro u hu
    rcases Relation.ReflTransGen.cases_head hu with rfl | ⟨v, hoff, -⟩
    · intro hcontinues
      rw [Continues, hheader] at hcontinues
      exact absurd hcontinues.2 (by decide)
    · exact absurd hopens hoff.1
  have habort : IsAbort 4 (buildAbort 4) := ⟨rfl, rfl⟩
  exact (((swallowed_abort habort).1 s hmsg).2 (.inr hrestarts) n).2

/-- The next audio message takes the header over: it is put together with the two bytes `0x21` and
`0x22` of the one that was given up. -/
theorem swallowed_abort_leaks :
    let s := amidAudio [0xC4, 0xAF, 0x01, 0x31, 0x32, 0xC4, 0x33, 0x34]
    let t := (dispatcher.tick s).2
    let aborted := t.withReader (t.reader.abortPartial 4).2
    dispatched s = some (buildAbort 4) ∧
      dispatched t = some ⟨msgAudio, 1, 0, [0xAF, 0x01, 0x21, 0x22, 0xAF, 0x01]⟩ ∧
      dispatched aborted = none ∧
      dispatched (dispatcher.tick aborted).2
        = some ⟨msgAudio, 1, 0, [0xAF, 0x01, 0x31, 0x32, 0x33, 0x34]⟩ := by
  decide +kernel

end RtmpSession

end Rtmp
