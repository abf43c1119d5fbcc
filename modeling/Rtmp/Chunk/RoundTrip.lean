import Rtmp.Chunk.Invariant
import Rtmp.Chunk.Reading
import Rtmp.Chunk.Writing

/-!
Writer and reader together.

* `Synced`: the reader's history is the writer's; it holds of a fresh pair, of every reachable one,
  and it is all that a read of the next message needs (`writeMessage_synced`);
* `receiveAll_sendAll` (**round trip**): what a writer emits for any list of messages, with the chunk
  size changed on both sides at any point, a fresh reader reads back exactly;
* `Faithful`: a call of `write_message` that succeeded emitted its message, and one that failed
  emitted nothing and left no trace;
* `faithful_iff` (**lengths**): that is so exactly when the chunk stream id is refused or the payload
  is below `2^24`.
-/

namespace Rtmp

open ChunkReader ChunkWriter

/-- The reader remembers of every chunk stream what the writer does. -/
structure Synced (w : ChunkWriter) (r : ChunkReader) : Prop where
  size : r.chunkSize = w.chunkSize
  streams : r.Tracks fun k => .idle (w.outState k).registers
  wellFormed : r.WellFormed

lemma synced_new (es : List ReadEvent) : Synced ChunkWriter.new (ChunkReader.new es) where
  size := rfl
  streams := fun _ => trivial
  wellFormed := wellFormed_new es

/-- Both sides change the chunk size. -/
lemma Synced.setChunkSize {w : ChunkWriter} {r : ChunkReader} (h : Synced w r) (size : ℕ) :
    Synced (w.setChunkSize size) (r.setChunkSize size) where
  size := rfl
  streams := h.streams
  wellFormed := h.wellFormed

/-- The source of the reader does not matter, nor does the sink of the writer. -/
lemma Synced.of_eq {w w' : ChunkWriter} {r r' : ChunkReader} (h : Synced w r)
    (hws : w'.states = w.states) (hwc : w'.chunkSize = w.chunkSize) (hrs : r'.states = r.states)
    (hrc : r'.chunkSize = r.chunkSize) : Synced w' r' where
  size := by rw [hrc, hwc, h.size]
  streams := by
    intro k
    change (Phase.idle (w'.outState k).registers).Tracked (r'.states k)
    rw [hrs, show w'.outState k = w.outState k from congrArg (fun f => (f k).getD {}) hws]
    exact h.streams k
  wellFormed := by
    intro k st hk
    rw [hrs] at hk
    exact h.wellFormed k st hk

/-- **One message**: on a legal chunk stream id a short enough message is emitted, and any synced
reader reads it back and stays synced. -/
theorem writeMessage_synced {w : ChunkWriter} {csid : UInt32} {msg : Message}
    (hlo : 2 ≤ csid.toNat) (hhi : csid.toNat ≤ 65599) (hlen : msg.payload.length < 2 ^ 24) :
    ∃ bs w', (writeMessage csid msg).run w = (.ok (), w') ∧ w'.stream = w.stream ++ bs ∧
      w'.chunkSize = w.chunkSize ∧
      ∀ r es, Synced w r → r.stream = ReadEvent.bytes bs ++ es →
        ∃ r', readMessage.run r = (.ok msg, r') ∧ r'.stream = es ∧ Synced w' r' := by
  obtain ⟨fmt, hpick, hlegal⟩ := pickFmt_legal (w.outState csid) msg
  refine ⟨_, _, writeMessage_ok hlo hhi hpick hlegal, rfl, rfl, ?_⟩
  intro r es hsync hstream
  set g := Registers.after (w.outState csid).registers msg fmt
  have hsends := sends_messageEmissions w.chunkSize.one_le (BasicForm.of_carries hlo hhi) hlen hlegal
  have hcomp := hsends.completed_eq
  obtain ⟨r', hrun, hes, htracks, hsize⟩ := readMessages_schedule w.chunkSize.one_le
    (hsends.schedule (P := fun k => .idle (w.outState k).registers) rfl) hsync.streams
    (by rw [hsync.size, ChunkSize.clamp_val_self])
    (fun k => by
      by_cases hk : k = csid
      · exact ⟨some g, by rw [hk, Function.update_self]⟩
      · exact ⟨_, Function.update_of_ne hk ..⟩) hstream
  rw [hcomp] at hrun
  -- one message was read, and it is the one that was written
  obtain ⟨msg', r₁, hone, hrest⟩ := Eff.run_bind_eq_ok.mp hrun
  obtain ⟨hmsg, rfl⟩ : msg' = msg ∧ r₁ = r' := by
    simpa [readMessages] using hrest
  rw [hmsg] at hone
  refine ⟨_, hone, hes,
    ⟨hsize.trans hsync.size, ?_, (readMessage_wellFormed.ok hsync.wellFormed hone).2⟩⟩
  -- only the stream that was written on has gone on, on both sides
  intro k
  have hk := htracks k
  simp only [outState_emit]
  by_cases hkc : k = csid
  · subst hkc
    rw [Function.update_self] at hk
    rw [outState_setState_self, registers_outState]
    exact hk
  · rw [Function.update_of_ne hkc] at hk
    rw [outState_setState_ne _ _ hkc]
    exact hk

/-! ### Whole runs -/

/-- What the user of a writer and a reader does between them: change the chunk size on both sides,
or send a message on one and read it on the other. -/
inductive ChunkOp where
  | setChunkSize (size : ℕ)
  | message (csid : UInt32) (msg : Message)

/-- The messages of a list of operations. -/
def messagesOf (ops : List ChunkOp) : List Message :=
  ops.filterMap fun
    | .setChunkSize _ => none
    | .message _ msg => some msg

/-- The writer's side of the operations. -/
def sendAll : List ChunkOp → WriterM Unit
  | [] => pure ()
  | .setChunkSize size :: ops => do
      Eff.modify (ChunkWriter.setChunkSize size)
      sendAll ops
  | .message csid msg :: ops => do
      writeMessage csid msg
      sendAll ops

/-- The reader's side of the operations: one call of `read_message` for each message. -/
def receiveAll : List ChunkOp → ReaderM (List Message)
  | [] => pure []
  | .setChunkSize size :: ops => do
      Eff.modify (ChunkReader.setChunkSize size)
      receiveAll ops
  | .message _ _ :: ops => do
      let msg ← readMessage
      let msgs ← receiveAll ops
      pure (msg :: msgs)

/-- The operation sends nothing that the chunk format cannot carry. -/
def ChunkOp.Representable : ChunkOp → Prop
  | .setChunkSize _ => True
  | .message csid msg => (2 ≤ csid.toNat ∧ csid.toNat ≤ 65599) ∧ msg.payload.length < 2 ^ 24

/-- Any synced pair stays in step over any run of operations. -/
theorem receiveAll_synced {ops : List ChunkOp} (hops : ∀ op ∈ ops, op.Representable)
    (w : ChunkWriter) :
    ∃ bs w', (sendAll ops).run w = (.ok (), w') ∧ w'.stream = w.stream ++ bs ∧
      ∀ r es, Synced w r → r.stream = ReadEvent.bytes bs ++ es →
        ∃ r', (receiveAll ops).run r = (.ok (messagesOf ops), r') ∧ r'.stream = es ∧
          Synced w' r' := by
  induction ops generalizing w with
  | nil => exact ⟨[], w, rfl, (List.append_nil _).symm, fun r es h hes => ⟨r, rfl, hes, h⟩⟩
  | cons op ops ih =>
      have hrest : ∀ op ∈ ops, op.Representable := fun op' h => hops op' (List.mem_cons_of_mem _ h)
      cases op with
      | setChunkSize size =>
          obtain ⟨bs, w', hsend, hw', hread⟩ := ih hrest (w.setChunkSize size)
          exact ⟨bs, w', hsend, hw', fun r es h hes => hread _ es (h.setChunkSize size) hes⟩
      | message csid msg =>
          obtain ⟨⟨hlo, hhi⟩, hlen⟩ := hops _ List.mem_cons_self
          obtain ⟨bs₁, w₁, hsend₁, hw₁, -, hread₁⟩ := writeMessage_synced (w := w) hlo hhi hlen
          obtain ⟨bs₂, w₂, hsend₂, hw₂, hread₂⟩ := ih hrest w₁
          refine ⟨bs₁ ++ bs₂, w₂, ?_, ?_, fun r es h hes => ?_⟩
          · rw [sendAll, Eff.run_bind_ok hsend₁, hsend₂]
          · rw [hw₂, hw₁, List.append_assoc]
          · rw [ReadEvent.bytes_append, List.append_assoc] at hes
            obtain ⟨r₁, hrun₁, hes₁, hsync₁⟩ := hread₁ r _ h hes
            obtain ⟨r₂, hrun₂, hes₂, hsync₂⟩ := hread₂ r₁ es hsync₁ hes₁
            refine ⟨r₂, ?_, hes₂, hsync₂⟩
            rw [receiveAll, Eff.run_bind_ok hrun₁, Eff.run_bind_ok hrun₂]
            rfl

/-- **Round trip**: for every list of messages on legal chunk stream ids with payloads below `2^24`,
and any chunk size changes made on both sides between them, a fresh reader returns exactly the
messages a fresh writer was given, in order, and takes the wire to its last byte. -/
theorem receiveAll_sendAll (ops : List ChunkOp) (hops : ∀ op ∈ ops, op.Representable) :
    ∃ w, (sendAll ops).run ChunkWriter.new = (.ok (), w) ∧
      ∃ r, (receiveAll ops).run (ChunkReader.new (ReadEvent.bytes w.stream))
          = (.ok (messagesOf ops), r) ∧ r.stream = [] := by
  obtain ⟨bs, w, hsend, hw, hread⟩ := receiveAll_synced hops ChunkWriter.new
  have hbs : w.stream = bs := hw
  obtain ⟨r, hrun, hes, -⟩ := hread (ChunkReader.new (ReadEvent.bytes bs)) [] (synced_new _)
    (List.append_nil _).symm
  rw [← hbs] at hrun
  exact ⟨w, hsend, r, hrun, hes⟩

/-- The round trip on a message that takes two chunks, after a change of the chunk size. -/
theorem receiveAll_sendAll_two_chunks :
    ∃ w, (sendAll [.setChunkSize 2, .message 3 ⟨20, 1, 7, [1, 2, 3]⟩]).run ChunkWriter.new
        = (.ok (), w) ∧
      ∃ r, (receiveAll [.setChunkSize 2, .message 3 ⟨20, 1, 7, [1, 2, 3]⟩]).run
          (ChunkReader.new (ReadEvent.bytes w.stream))
          = (.ok (messagesOf [.setChunkSize 2, .message 3 ⟨20, 1, 7, [1, 2, 3]⟩]), r) ∧
        r.stream = [] :=
  receiveAll_sendAll _ fun op h => by
    rcases List.mem_pair.mp h with rfl | rfl
    · trivial
    · exact ⟨⟨by decide, by decide⟩, by decide⟩

/-! ### All or nothing -/

/-- Two writers no later call can tell apart. -/
structure Similar (w w' : ChunkWriter) : Prop where
  stream : w'.stream = w.stream
  size : w'.chunkSize = w.chunkSize
  states : ∀ k, w'.outState k = w.outState k

lemma Similar.setState {w w' : ChunkWriter} (h : Similar w w') (csid : UInt32) (st : OutState) :
    Similar (w.setState csid st) (w'.setState csid st) where
  stream := h.stream
  size := h.size
  states := by
    intro k
    by_cases hk : k = csid
    · rw [hk, outState_setState_self, outState_setState_self]
    · rw [outState_setState_ne _ _ hk, outState_setState_ne _ _ hk, h.states k]

/-- Writing back the state that is looked up makes no difference. -/
lemma similar_setState_self (w : ChunkWriter) (csid : UInt32) :
    Similar w (w.setState csid (w.outState csid)) where
  stream := rfl
  size := rfl
  states := by
    intro k
    by_cases hk : k = csid
    · rw [hk, outState_setState_self]
    · rw [outState_setState_ne _ _ hk]

/-- A message makes the same difference to writers that cannot be told apart. -/
lemma Similar.writeMessage {w w' : ChunkWriter} (h : Similar w w') (csid : UInt32)
    (msg : Message) :
    ((writeMessage csid msg).run w').1 = ((writeMessage csid msg).run w).1 ∧
      Similar ((writeMessage csid msg).run w).2 ((writeMessage csid msg).run w').2 := by
  by_cases hcsid : 2 ≤ csid.toNat ∧ csid.toNat ≤ 65599
  · obtain ⟨hlo, hhi⟩ := hcsid
    obtain ⟨fmt, hpick, hlegal⟩ := pickFmt_legal (w.outState csid) msg
    have hrun := writeMessage_ok hlo hhi hpick hlegal
    rw [← h.states csid] at hpick hlegal
    have hrun' := writeMessage_ok hlo hhi hpick hlegal
    rw [hrun, hrun', h.states csid, h.size]
    refine ⟨rfl, ?_⟩
    have hst := h.setState csid (Registers.after (w.outState csid).registers msg fmt).outState
    exact ⟨congrArg (· ++ _) hst.stream, hst.size, hst.states⟩
  · rw [writeMessage_error msg hcsid, writeMessage_error msg hcsid, h.states csid]
    exact ⟨rfl, h.setState csid _⟩

/-- The writer's side of the operations, each outcome kept and none fatal. -/
def sendEach : List ChunkOp → WriterM (List (Except Error Unit))
  | [] => pure []
  | .setChunkSize size :: ops => do
      Eff.modify (ChunkWriter.setChunkSize size)
      sendEach ops
  | .message csid msg :: ops => do
      let outcome ← Eff.attempt (writeMessage csid msg)
      let outcomes ← sendEach ops
      pure (outcome :: outcomes)

lemma run_sendEach_message (csid : UInt32) (msg : Message) (ops : List ChunkOp) (w : ChunkWriter) :
    (sendEach (.message csid msg :: ops)).run w
      = match (sendEach ops).run ((writeMessage csid msg).run w).2 with
        | (.ok outcomes, w') => (.ok (((writeMessage csid msg).run w).1 :: outcomes), w')
        | (.error e, w') => (.error e, w') := by
  rw [sendEach, Eff.run_attempt_bind, Eff.run_bind]
  rcases (sendEach ops).run ((writeMessage csid msg).run w).2 with ⟨_ | outcomes, w'⟩ <;> rfl

/-- Whatever is done later, writers that cannot be told apart emit the same. -/
lemma Similar.sendEach {w w' : ChunkWriter} (h : Similar w w') (ops : List ChunkOp) :
    ((sendEach ops).run w').1 = ((sendEach ops).run w).1 ∧
      Similar ((sendEach ops).run w).2 ((sendEach ops).run w').2 := by
  induction ops generalizing w w' with
  | nil => exact ⟨rfl, h⟩
  | cons op ops ih =>
      cases op with
      | setChunkSize size => exact ih ⟨h.stream, rfl, h.states⟩
      | message csid msg =>
          obtain ⟨hout, hsim⟩ := h.writeMessage csid msg
          obtain ⟨houts, hsims⟩ := ih hsim
          rw [run_sendEach_message, run_sendEach_message, hout]
          rcases h₁ : (Rtmp.sendEach ops).run ((ChunkWriter.writeMessage csid msg).run w).2
            with ⟨_ | outs₁, w₁⟩ <;>
          rcases h₂ : (Rtmp.sendEach ops).run ((ChunkWriter.writeMessage csid msg).run w').2
            with ⟨_ | outs₂, w₂⟩ <;>
          rw [h₁, h₂] at houts hsims <;> simp_all

/-- The bytes decode, after everything `r` has read, to exactly `msg` and nothing else. -/
def DecodesTo (r : ChunkReader) (bs : List UInt8) (msg : Message) : Prop :=
  ∃ r', readMessage.run { r with stream := ReadEvent.bytes bs } = (.ok msg, r') ∧ r'.stream = []

/-- The state after a failed call is as good as the one before it: not a byte was emitted, and
whatever is done later has the same outcomes and emits the same bytes. -/
def Undone (w w' : ChunkWriter) : Prop :=
  w'.stream = w.stream ∧ ∀ later, ((sendEach later).run w').1 = ((sendEach later).run w).1 ∧
    ((sendEach later).run w').2.stream = ((sendEach later).run w).2.stream

lemma Similar.undone {w w' : ChunkWriter} (h : Similar w w') : Undone w w' :=
  ⟨h.stream, fun later => ⟨(h.sendEach later).1, (h.sendEach later).2.stream⟩⟩

/-- What a call that ran from `w` to `w'` with the given outcome promises about the message it was
to send: sent if it succeeded, undone if it failed. -/
def Faithful (w : ChunkWriter) (r : ChunkReader) (msg : Message) :
    Except Error Unit × ChunkWriter → Prop
  | (.ok _, w') => ∃ bs, w'.stream = w.stream ++ bs ∧ DecodesTo r bs msg
  | (.error _, w') => Undone w w'

/-- **Lengths**: `write_message` is all or nothing exactly when the chunk stream id is refused or the
payload is below `2^24`; a longer payload is sent under a truncated length. -/
theorem faithful_writeMessage_iff {w : ChunkWriter} {r : ChunkReader} (hsync : Synced w r)
    (csid : UInt32) (msg : Message) :
    Faithful w r msg ((writeMessage csid msg).run w) ↔
      ¬ (2 ≤ csid.toNat ∧ csid.toNat ≤ 65599) ∨ msg.payload.length < 2 ^ 24 := by
  by_cases hcsid : 2 ≤ csid.toNat ∧ csid.toNat ≤ 65599
  · obtain ⟨hlo, hhi⟩ := hcsid
    constructor
    · intro h
      obtain ⟨fmt, hpick, hlegal⟩ := pickFmt_legal (w.outState csid) msg
      rw [writeMessage_ok hlo hhi hpick hlegal] at h
      obtain ⟨bs, -, r', hread, -⟩ := h
      have hwf : ({ r with stream := ReadEvent.bytes bs } : ChunkReader).WellFormed :=
        hsync.wellFormed
      exact .inr (length_payload_lt hwf hread)
    · rintro (hbad | hlen)
      · exact absurd ⟨hlo, hhi⟩ hbad
      · obtain ⟨bs, w', hsend, hw', -, hread⟩ := writeMessage_synced (w := w) hlo hhi hlen
        rw [hsend]
        obtain ⟨r', hrun, hes, -⟩ := hread { r with stream := ReadEvent.bytes bs } []
          (hsync.of_eq rfl rfl rfl rfl) (List.append_nil _).symm
        exact ⟨bs, hw', r', hrun, hes⟩
  · refine iff_of_true ?_ (.inl hcsid)
    rw [writeMessage_error msg hcsid]
    exact (similar_setState_self w csid).undone

end Rtmp
