import Rtmp.Chunk.Reader

/-!
The loop of `read_message`: it ends, and it only depends on the part of the stream it takes.

* `Streaming`: an operation of the reader takes events off the front of the stream and does not
  look at the ones it leaves, closed under sequencing (`Streaming.bind`);
* `readChunk_shrinks`: a chunk that was read took at least one event, so the rounds of
  `readMessage` are never used up (`readChunks_rounds`);
* `readMessage_eq`: the loop, unrolled once;
* `readMessages`: repeated calls of `read_message`.
-/

namespace Rtmp

namespace ChunkReader

/-- The reader with more of the stream arrived. -/
def feed (es : List ReadEvent) (r : ChunkReader) : ChunkReader := { r with stream := r.stream ++ es }

@[simp] lemma stream_feed (es : List ReadEvent) (r : ChunkReader) :
    (r.feed es).stream = r.stream ++ es := rfl

@[simp] lemma feed_nil (r : ChunkReader) : r.feed [] = r := by
  simp [feed]

@[simp] lemma feed_feed (es fs : List ReadEvent) (r : ChunkReader) :
    (r.feed es).feed fs = r.feed (es ++ fs) := by
  simp [feed]

/-- The operation takes a prefix of the stream, a success or a refusal does not depend on the rest,
and a failure of the stream other than its end is taken off it. -/
structure Streaming {α : Type} (x : ReaderM α) : Prop where
  suffix : ∀ r, (x.run r).2.stream <:+ r.stream
  extend : ∀ {r r' a}, x.run r = (.ok a, r') → ∀ es, x.run (r.feed es) = (.ok a, r'.feed es)
  refuse : ∀ {r r' e}, x.run r = (.error e, r') → (∀ kind, e ≠ .io kind) →
    ∀ es, x.run (r.feed es) = (.error e, r'.feed es)
  stall : ∀ {r r' kind}, x.run r = (.error (.io kind), r') → kind ≠ .unexpectedEof →
    r'.stream.length < r.stream.length

namespace Streaming

variable {α β : Type}

lemma pure (a : α) : Streaming (pure a : ReaderM α) where
  suffix r := List.suffix_refl _
  extend {r r' b} h es := by
    simp only [Eff.run_pure, Prod.mk.injEq, Except.ok.injEq] at h ⊢
    exact ⟨h.1, congrArg (feed es) h.2⟩
  refuse h _ es := by simp at h
  stall h _ := by simp at h

lemma fail_eof : Streaming (Eff.fail (.io .unexpectedEof) : ReaderM α) where
  suffix r := List.suffix_refl _
  extend {r r' b} h es := by simp at h
  refuse {r r' e} h he es := by
    simp only [Eff.run_fail, Prod.mk.injEq, Except.error.injEq] at h
    exact absurd h.1.symm (he _)
  stall h hkind := by
    simp only [Eff.run_fail, Prod.mk.injEq, Except.error.injEq, Error.io.injEq] at h
    exact absurd h.1.symm hkind

lemma gets {f : ChunkReader → α} (hf : ∀ r es, f (r.feed es) = f r) :
    Streaming (Eff.gets f : ReaderM α) where
  suffix r := List.suffix_refl _
  extend {r r' b} h es := by
    simp only [Eff.run_gets, Prod.mk.injEq, Except.ok.injEq] at h ⊢
    exact ⟨(hf r es).trans h.1, congrArg (feed es) h.2⟩
  refuse h _ es := by simp at h
  stall h _ := by simp at h

lemma modify {f : ChunkReader → ChunkReader} (hs : ∀ r, (f r).stream = r.stream)
    (hf : ∀ r es, f (r.feed es) = (f r).feed es) : Streaming (Eff.modify f : ReaderM Unit) where
  suffix r := by
    rw [Eff.run_modify, hs]
  extend {r r' b} h es := by
    simp only [Eff.run_modify, Prod.mk.injEq, true_and] at h ⊢
    rw [hf, h]
  refuse h _ es := by simp at h
  stall h _ := by simp at h

lemma setState (csid : UInt32) (st : InState) :
    Streaming (Eff.modify (ChunkReader.setState csid st) : ReaderM Unit) :=
  modify (fun _ => rfl) fun _ _ => rfl

lemma bind {x : ReaderM α} {f : α → ReaderM β} (hx : Streaming x) (hf : ∀ a, Streaming (f a)) :
    Streaming (x >>= f) where
  suffix r := by
    rw [Eff.run_bind]
    have h := hx.suffix r
    rcases hr : x.run r with ⟨_ | a, r'⟩ <;> rw [hr] at h
    · exact h
    · exact ((hf a).suffix r').trans h
  extend {r r' b} h es := by
    obtain ⟨a, r₁, hr, hb⟩ := Eff.run_bind_eq_ok.mp h
    rw [Eff.run_bind_ok (hx.extend hr es)]
    exact (hf a).extend hb es
  refuse {r r' e} h he es := by
    rw [Eff.run_bind] at h
    rcases hr : x.run r with ⟨e' | a, r₁⟩ <;> rw [hr] at h
    · cases h
      exact Eff.run_bind_error (hx.refuse hr he es)
    · rw [Eff.run_bind_ok (hx.extend hr es)]
      exact (hf a).refuse h he es
  stall {r r' kind} h hkind := by
    rw [Eff.run_bind] at h
    rcases hr : x.run r with ⟨e | a, r₁⟩ <;> rw [hr] at h
    · cases h
      exact hx.stall hr hkind
    · -- the second part fails in what the first has left
      have hle := (hx.suffix r).length_le
      rw [hr] at hle
      exact ((hf a).stall h hkind).trans_le hle

lemma ite {p : Prop} [Decidable p] {x y : ReaderM α} (hx : Streaming x) (hy : Streaming y) :
    Streaming (if p then x else y) := by
  split_ifs
  · exact hx
  · exact hy

lemma readExactCounted (n : ℕ) : Streaming (readExactCounted n) where
  suffix r := by
    rw [run_readExactCounted]
    have h := readExact_suffix n r.stream
    rcases hr : readExact n r.stream with ⟨_ | bs, rest⟩ <;> rw [hr] at h <;> exact h
  extend {r r' b} h es := by
    obtain ⟨hlen, hstream, hr'⟩ := readExactCounted_eq_ok h
    have hfeed : (r.feed es).stream = ReadEvent.bytes b ++ (r'.stream ++ es) := by
      rw [stream_feed, hstream, List.append_assoc]
    rw [readExactCounted_bytes b hlen hfeed, hr']
    rfl
  refuse {r r' e} h he es := by
    rw [run_readExactCounted] at h
    rcases hr : readExact n r.stream with ⟨kind | bs, rest⟩ <;> rw [hr] at h
    · cases h
      exact absurd rfl (he kind)
    · cases h
  stall {r r' kind} h hkind := by
    rw [run_readExactCounted] at h
    rcases hr : readExact n r.stream with ⟨kind' | bs, rest⟩ <;> rw [hr] at h
    · cases h
      exact readExact_stall hr hkind
    · cases h

lemma requireState (csid : UInt32) (text : String) : Streaming (requireState csid text) where
  suffix r := by
    rw [run_requireState]
    rcases r.states csid with _ | st <;> exact List.suffix_refl _
  extend {r r' b} h es := by
    rw [run_requireState] at h ⊢
    rcases hst : r.states csid with _ | st <;> rw [hst] at h
    · simp at h
    · simp only [Prod.mk.injEq, Except.ok.injEq] at h
      obtain ⟨rfl, rfl⟩ := h
      rw [show (r.feed es).states csid = r.states csid from rfl, hst]
  refuse {r r' e} h _ es := by
    rw [run_requireState] at h ⊢
    rcases hst : r.states csid with _ | st <;> rw [hst] at h
    · simp only [Prod.mk.injEq, Except.error.injEq] at h
      obtain ⟨rfl, rfl⟩ := h
      rw [show (r.feed es).states csid = r.states csid from rfl, hst]
    · cases h
  stall {r r' kind} h _ := by
    rw [run_requireState] at h
    rcases hst : r.states csid with _ | st <;> rw [hst] at h <;> cases h

lemma readU24Be : Streaming readU24Be := (readExactCounted 3).bind fun _ => pure _

lemma readU32LeStreamId : Streaming readU32LeStreamId := (readExactCounted 4).bind fun _ => pure _

lemma readU32Be : Streaming readU32Be := (readExactCounted 4).bind fun _ => pure _

lemma readType : Streaming readType := (readExactCounted 1).bind fun _ => pure _

lemma readCsid (low : UInt8) : Streaming (readCsid low) :=
  ite ((readExactCounted 1).bind fun _ => pure _)
    (ite ((readExactCounted 2).bind fun _ => pure _) (pure _))

lemma readBasicHeader : Streaming readBasicHeader :=
  (readExactCounted 1).bind fun _ => (readCsid _).bind fun _ => pure _

lemma readExtended (field : UInt32) : Streaming (readExtended field) :=
  ite (readU32Be.bind fun _ => pure _) (pure _)

lemma readFmt0Header (csid : UInt32) : Streaming (readFmt0Header csid) :=
  readU24Be.bind fun _ => readU24Be.bind fun _ => readType.bind fun _ =>
    readU32LeStreamId.bind fun _ => (readExtended _).bind fun _ =>
      (gets fun _ _ => rfl).bind fun _ => setState _ _

lemma readFmt1Header (csid : UInt32) : Streaming (readFmt1Header csid) :=
  readU24Be.bind fun _ => readU24Be.bind fun _ => readType.bind fun _ =>
    (readExtended _).bind fun _ => (requireState _ _).bind fun _ => setState _ _

lemma readFmt2Header (csid : UInt32) : Streaming (readFmt2Header csid) :=
  readU24Be.bind fun _ => (readExtended _).bind fun _ =>
    (requireState _ _).bind fun _ => setState _ _

lemma readRepeatedTs (hadExtTs : Bool) : Streaming (readRepeatedTs hadExtTs) :=
  ite (readU32Be.bind fun _ => pure _) (pure _)

lemma readFmt3Header (csid : UInt32) : Streaming (readFmt3Header csid) :=
  (requireState _ _).bind fun _ => (readRepeatedTs _).bind fun _ => ite (setState _ _) (pure _)

lemma readMessageHeader (fmt : UInt8) (csid : UInt32) : Streaming (readMessageHeader fmt csid) :=
  ite (readFmt0Header csid) (ite (readFmt1Header csid) (ite (readFmt2Header csid)
    (readFmt3Header csid)))

lemma readPayload (csid : UInt32) (fmt : UInt8) : Streaming (readPayload csid fmt) :=
  (requireState _ _).bind fun _ => (gets fun _ _ => rfl).bind fun _ =>
    (readExactCounted _).bind fun _ =>
      ite ((setState _ _).bind fun _ => pure _) ((setState _ _).bind fun _ => pure _)

/-- A chunk is read off the front of the stream. -/
theorem readChunk : Streaming readChunk :=
  readBasicHeader.bind fun _ => (readMessageHeader _ _).bind fun _ => readPayload _ _

end Streaming

/-! ### The loop ends -/

/-- A chunk that was read took at least its first byte. -/
lemma readChunk_shrinks {r r' : ChunkReader} {out : Option Message}
    (h : readChunk.run r = (.ok out, r')) : r'.stream.length < r.stream.length := by
  obtain ⟨⟨csid, fmt⟩, r₁, hbasic, hrest⟩ := Eff.run_bind_eq_ok.mp h
  obtain ⟨b, r₀, hfirst, hlow⟩ := Eff.run_bind_eq_ok.mp hbasic
  obtain ⟨hlen, hstream, -⟩ := readExactCounted_eq_ok hfirst
  have hcsid := ((Streaming.readCsid (b.getD 0 0 &&& 0x3F)).bind fun csid =>
    Streaming.pure (csid, (b.getD 0 0 >>> 6) &&& 0x03)).suffix r₀
  rw [hlow] at hcsid
  have hbody := ((Streaming.readMessageHeader fmt csid).bind fun _ =>
    Streaming.readPayload csid fmt).suffix r₁
  rw [hrest] at hbody
  have hle := (hbody.trans hcsid).length_le
  rw [hstream, List.length_append, ReadEvent.length_bytes, hlen]
  simp only at hle
  omega

/-- More rounds than there are events make no difference. -/
lemma readChunks_rounds {n m : ℕ} {r : ChunkReader} (hn : r.stream.length < n)
    (hm : r.stream.length < m) : (readChunks n).run r = (readChunks m).run r := by
  induction n generalizing m r with
  | zero => omega
  | succ n ih =>
      obtain ⟨m, rfl⟩ : ∃ k, m = k + 1 := ⟨m - 1, by omega⟩
      rw [readChunks, readChunks, Eff.run_bind, Eff.run_bind]
      rcases hr : readChunk.run r with ⟨e | _ | msg, r'⟩
      · rfl
      · have hlt := readChunk_shrinks hr
        exact ih (by omega) (by omega)
      · rfl

/-- **The loop of `read_message`**: one chunk, and again if that completed no message. -/
theorem readMessage_eq (r : ChunkReader) :
    readMessage.run r = match readChunk.run r with
      | (.ok (some msg), r') => (.ok msg, r')
      | (.ok none, r') => readMessage.run r'
      | (.error e, r') => (.error e, r') := by
  have hrun : readMessage.run r = (readChunks (r.stream.length + 1)).run r := rfl
  rw [hrun, readChunks, Eff.run_bind]
  rcases hr : readChunk.run r with ⟨e | _ | msg, r'⟩
  · rfl
  · have hlt := readChunk_shrinks hr
    exact readChunks_rounds hlt (Nat.lt_succ_self _)
  · rfl

/-- A chunk that completes no message is skipped. -/
lemma readMessage_of_none {r r' : ChunkReader} (h : readChunk.run r = (.ok none, r')) :
    readMessage.run r = readMessage.run r' := by
  rw [readMessage_eq, h]

/-- A chunk that completes a message ends the call. -/
lemma readMessage_of_some {r r' : ChunkReader} {msg : Message}
    (h : readChunk.run r = (.ok (some msg), r')) : readMessage.run r = (.ok msg, r') := by
  rw [readMessage_eq, h]

/-- A chunk that fails ends the call. -/
lemma readMessage_of_error {r r' : ChunkReader} {e : Error}
    (h : readChunk.run r = (.error e, r')) : readMessage.run r = (.error e, r') := by
  rw [readMessage_eq, h]

lemma Streaming.readChunks (n : ℕ) : Streaming (readChunks n) := by
  induction n with
  | zero => exact fail_eof
  | succ n ih =>
      refine Streaming.readChunk.bind fun out => ?_
      cases out with
      | none => exact ih
      | some msg => exact pure msg

/-- A message is read off the front of the stream. -/
theorem Streaming.readMessage : Streaming readMessage where
  suffix r := (Streaming.readChunks (r.stream.length + 1)).suffix r
  extend {r r' msg} h es := by
    have hrun : (ChunkReader.readChunks (r.stream.length + 1)).run r = (.ok msg, r') := h
    have hlong : (ChunkReader.readChunks ((r.feed es).stream.length + 1)).run r = (.ok msg, r') := by
      rw [← hrun]
      exact readChunks_rounds (by rw [stream_feed, List.length_append]; omega)
        (Nat.lt_succ_self _)
    exact (Streaming.readChunks _).extend hlong es
  refuse {r r' e} h he es := by
    have hrun : (ChunkReader.readChunks (r.stream.length + 1)).run r = (.error e, r') := h
    have hlong : (ChunkReader.readChunks ((r.feed es).stream.length + 1)).run r = (.error e, r') := by
      rw [← hrun]
      exact readChunks_rounds (by rw [stream_feed, List.length_append]; omega)
        (Nat.lt_succ_self _)
    exact (Streaming.readChunks _).refuse hlong he es
  stall {r r' kind} h hkind := (Streaming.readChunks (r.stream.length + 1)).stall h hkind

/-- A message that was read took at least one event. -/
lemma readMessage_shrinks {r r' : ChunkReader} {msg : Message}
    (h : readMessage.run r = (.ok msg, r')) : r'.stream.length < r.stream.length := by
  have hrun : (readChunks (r.stream.length + 1)).run r = (.ok msg, r') := h
  rw [readChunks] at hrun
  obtain ⟨out, r₁, hchunk, hrest⟩ := Eff.run_bind_eq_ok.mp hrun
  have hlt := readChunk_shrinks hchunk
  cases out with
  | none =>
      have hle := ((Streaming.readChunks r.stream.length).suffix r₁).length_le
      rw [hrest] at hle
      exact hle.trans_lt hlt
  | some m =>
      cases hrest
      exact hlt

/-! ### Repeated calls -/

/-- `n` calls of `read_message` in a row. -/
def readMessages : ℕ → ReaderM (List Message)
  | 0 => pure []
  | n + 1 => do
      let msg ← readMessage
      let msgs ← readMessages n
      pure (msg :: msgs)

end ChunkReader

end Rtmp
