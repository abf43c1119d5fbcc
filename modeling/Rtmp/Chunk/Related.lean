import Rtmp.Chunk.Loop

/-!
Readers that read the same although their states differ.

* `Blind`: reading a chunk on a chunk stream does not tell related readers apart;
* `Alike`: the readers differ at most in their acknowledgement counters, and read the same messages
  (`readMessage_alike`);
* `forget`: what `abort_partial` does to a reader.  A reader that has forgotten what it held of a
  message reads the same chunks (`readChunk_forget`), and once a chunk with a header of its own opens
  the next message on that chunk stream it is the same reader (`readChunk_forget_opened`).
-/

namespace Rtmp

/-- A chunk stream's state without what it holds of a message. -/
def InState.forgotten (st : InState) : InState := { st with partialPayload := [] }

namespace ChunkReader

open Eff (Respects)

/-! ### Operations that respect a relation -/

section Fields

variable {R : ChunkReader → ChunkReader → Prop} (hread : ∀ n, Respects R (readExactCounted n))

include hread

lemma respects_readU24Be : Respects R readU24Be := (hread 3).bind fun _ => .pure _

lemma respects_readU32LeStreamId : Respects R readU32LeStreamId := (hread 4).bind fun _ => .pure _

lemma respects_readU32Be : Respects R readU32Be := (hread 4).bind fun _ => .pure _

lemma respects_readType : Respects R readType := (hread 1).bind fun _ => .pure _

lemma respects_readBasicHeader : Respects R readBasicHeader := by
  have hcsid : ∀ low, Respects R (readCsid low) := fun low =>
    .ite ((hread 1).bind fun _ => .pure _) (.ite ((hread 2).bind fun _ => .pure _) (.pure _))
  exact (hread 1).bind fun _ => (hcsid _).bind fun _ => .pure _

lemma respects_readExtended (field : UInt32) : Respects R (readExtended field) :=
  .ite ((respects_readU32Be hread).bind fun _ => .pure _) (.pure _)

lemma respects_readRepeatedTs (hadExtTs : Bool) : Respects R (readRepeatedTs hadExtTs) :=
  .ite ((respects_readU32Be hread).bind fun _ => .pure _) (.pure _)

end Fields

/-- Reading a chunk on `csid` does not tell the readers apart. -/
structure Blind (R : ChunkReader → ChunkReader → Prop) (csid : UInt32) : Prop where
  read : ∀ n, Respects R (readExactCounted n)
  chunkSize : ∀ {r r'}, R r r' → r.chunkSize = r'.chunkSize
  states : ∀ {r r'}, R r r' → r.states csid = r'.states csid
  setState : ∀ {r r'} (st : InState), R r r' → R (r.setState csid st) (r'.setState csid st)

namespace Blind

variable {R : ChunkReader → ChunkReader → Prop} {csid : UInt32} (h : Blind R csid)

include h

lemma requireState (text : String) : Respects R (requireState csid text) := by
  intro r r' hr
  rw [run_requireState, run_requireState, h.states hr]
  rcases r'.states csid with _ | st <;> exact ⟨rfl, hr⟩

lemma modify (st : InState) : Respects R (Eff.modify (ChunkReader.setState csid st) : ReaderM Unit) :=
  .modify fun _ _ hr => h.setState st hr

lemma readFmt0Header : Respects R (readFmt0Header csid) :=
  (respects_readU24Be h.read).bind fun _ => (respects_readU24Be h.read).bind fun _ =>
    (respects_readType h.read).bind fun _ => (respects_readU32LeStreamId h.read).bind fun _ =>
      (respects_readExtended h.read _).bind fun _ =>
        (Respects.gets fun _ _ hr => by rw [h.states hr]).bind fun _ => h.modify _

lemma readFmt1Header : Respects R (readFmt1Header csid) :=
  (respects_readU24Be h.read).bind fun _ => (respects_readU24Be h.read).bind fun _ =>
    (respects_readType h.read).bind fun _ => (respects_readExtended h.read _).bind fun _ =>
      (h.requireState _).bind fun _ => h.modify _

lemma readFmt2Header : Respects R (readFmt2Header csid) :=
  (respects_readU24Be h.read).bind fun _ => (respects_readExtended h.read _).bind fun _ =>
    (h.requireState _).bind fun _ => h.modify _

lemma readFmt3Header : Respects R (readFmt3Header csid) :=
  (h.requireState _).bind fun _ => (respects_readRepeatedTs h.read _).bind fun _ =>
    .ite (h.modify _) (.pure _)

lemma readMessageHeader (fmt : UInt8) : Respects R (readMessageHeader fmt csid) :=
  .ite h.readFmt0Header (.ite h.readFmt1Header (.ite h.readFmt2Header h.readFmt3Header))

lemma readPayload (fmt : UInt8) : Respects R (readPayload csid fmt) :=
  (h.requireState _).bind fun _ => (Respects.gets fun _ _ hr => by rw [h.chunkSize hr]).bind fun _ =>
    (h.read _).bind fun _ =>
      .ite ((h.modify _).bind fun _ => .pure _) ((h.modify _).bind fun _ => .pure _)

end Blind

/-! ### Acknowledgement counters -/

/-- The readers differ at most in their acknowledgement counters. -/
structure Alike (r r' : ChunkReader) : Prop where
  stream : r.stream = r'.stream
  chunkSize : r.chunkSize = r'.chunkSize
  states : r.states = r'.states

namespace Alike

lemma refl (r : ChunkReader) : Alike r r := ⟨rfl, rfl, rfl⟩

lemma symm {r r' : ChunkReader} (h : Alike r r') : Alike r' r :=
  ⟨h.stream.symm, h.chunkSize.symm, h.states.symm⟩

lemma trans {r r' r'' : ChunkReader} (h : Alike r r') (h' : Alike r' r'') : Alike r r'' :=
  ⟨h.stream.trans h'.stream, h.chunkSize.trans h'.chunkSize, h.states.trans h'.states⟩

lemma readExactCounted (n : ℕ) : Respects Alike (readExactCounted n) := by
  intro r r' h
  rw [run_readExactCounted, run_readExactCounted, h.stream]
  rcases readExact n r'.stream with ⟨kind | bs, rest⟩
  · exact ⟨rfl, rfl, h.chunkSize, h.states⟩
  · exact ⟨rfl, rfl, h.chunkSize, h.states⟩

lemma blind (csid : UInt32) : Blind Alike csid where
  read := readExactCounted
  chunkSize h := h.chunkSize
  states h := by rw [h.states]
  setState st h := ⟨h.stream, h.chunkSize, by simp only [ChunkReader.setState, h.states]⟩

end Alike

/-- Alike readers read the same chunk. -/
lemma readChunk_alike : Respects Alike readChunk :=
  (respects_readBasicHeader Alike.readExactCounted).bind fun _ =>
    ((Alike.blind _).readMessageHeader _).bind fun _ => (Alike.blind _).readPayload _

lemma readChunks_alike (n : ℕ) : Respects Alike (readChunks n) := by
  induction n with
  | zero => exact .fail _
  | succ n ih =>
      refine readChunk_alike.bind fun out => ?_
      cases out with
      | none => exact ih
      | some msg => exact .pure msg

/-- Alike readers read the same message. -/
theorem readMessage_alike : Respects Alike readMessage := by
  intro r r' h
  have hrun : readMessage.run r' = (readChunks (r.stream.length + 1)).run r' := by
    rw [h.stream]
    rfl
  rw [hrun]
  have hsame := readChunks_alike (r.stream.length + 1) r r' h
  exact hsame

/-! ### A message given up -/

/-- The reader without what it holds of a message on `csid`. -/
def forget (csid : UInt32) (r : ChunkReader) : ChunkReader :=
  { r with states := Function.update r.states csid ((r.states csid).map InState.forgotten) }

/-- Giving a message up is forgetting it. -/
lemma abortPartial_snd (csid : UInt32) (r : ChunkReader) :
    (r.abortPartial csid).2 = r.forget csid := by
  rw [abortPartial, forget]
  cases hst : r.states csid with
  | none =>
      have hself : Function.update r.states csid none = r.states := by
        rw [← hst, Function.update_eq_self]
      rw [Option.map_none, hself]
  | some st =>
      rw [Option.map_some]
      by_cases hresumed : st.partialPayload = []
      · -- Nothing was held, so nothing changes.
        have hsame : st.forgotten = st := by rw [InState.forgotten, ← hresumed]
        rw [hsame, ← hst, Function.update_eq_self]
        simp only [hst, hresumed, ne_eq, not_true_eq_false, if_false]
      · simp only [ne_eq, hresumed, not_false_eq_true, if_true]
        rfl

/-- Without a message to give up, giving it up changes nothing. -/
lemma abortPartial_of_false {csid : UInt32} {r : ChunkReader} (h : (r.abortPartial csid).1 = false) :
    (r.abortPartial csid).2 = r := by
  rw [abortPartial] at h ⊢
  cases hst : r.states csid with
  | none => rfl
  | some st =>
      rw [hst] at h
      by_cases hresumed : st.partialPayload = []
      · simp only [hresumed, ne_eq, not_true_eq_false, if_false]
      · simp only [ne_eq, hresumed, not_false_eq_true, if_true, Bool.true_eq_false] at h

lemma states_forget_ne {csid k : UInt32} (h : csid ≠ k) (r : ChunkReader) :
    (r.forget k).states csid = r.states csid := Function.update_of_ne h _ _

lemma states_forget_self (k : UInt32) (r : ChunkReader) :
    (r.forget k).states k = (r.states k).map InState.forgotten := Function.update_self _ _ _

/-- The second reader is the first without what it holds on `k`. -/
def Forgot (k : UInt32) (r r' : ChunkReader) : Prop := r' = r.forget k

namespace Forgot

variable {k csid : UInt32}

lemma readExactCounted (k : UInt32) (n : ℕ) : Respects (Forgot k) (readExactCounted n) := by
  rintro r _ rfl
  rw [run_readExactCounted, run_readExactCounted, show (r.forget k).stream = r.stream from rfl]
  rcases readExact n r.stream with ⟨kind | bs, rest⟩ <;> exact ⟨rfl, rfl⟩

/-- Chunks on other chunk streams are read the same. -/
lemma blind (h : csid ≠ k) : Blind (Forgot k) csid where
  read := readExactCounted k
  chunkSize hr := by
    rw [hr]
    rfl
  states hr := by rw [hr, states_forget_ne h]
  setState {r _} st hr := by
    have hk : Function.update r.states csid (some st) k = r.states k :=
      Function.update_of_ne h.symm _ _
    rw [hr, Forgot]
    simp only [ChunkReader.setState, forget, hk]
    rw [Function.update_comm h]

end Forgot

/-- Chunks on other chunk streams are read the same, and what was forgotten stays so. -/
lemma Forgot.readChunk_rest {k csid : UInt32} (h : csid ≠ k) (fmt : UInt8) :
    Respects (Forgot k) (readMessageHeader fmt csid >>= fun _ => readPayload csid fmt) :=
  ((Forgot.blind h).readMessageHeader fmt).bind fun _ => (Forgot.blind h).readPayload fmt

/-! ### The next chunk on the same chunk stream -/

lemma setState_forget (k : UInt32) (st : InState) (r : ChunkReader) :
    (r.forget k).setState k st = r.setState k st := by
  simp only [setState, forget, Function.update_idem]

/-- After a success the readers are the same; a failure changes nothing between them. -/
def Mends {α : Type} (k : UInt32) (x : ReaderM α) : Prop :=
  ∀ r, (∃ a t, x.run r = (.ok a, t) ∧ x.run (r.forget k) = (.ok a, t)) ∨
    ∃ e t, x.run r = (.error e, t) ∧ x.run (r.forget k) = (.error e, t.forget k)

namespace Mends

variable {α β : Type} {k : UInt32}

/-- What comes before does not look at the states. -/
lemma bind {x : ReaderM α} {f : α → ReaderM β} (hx : Respects (Forgot k) x)
    (hf : ∀ a, Mends k (f a)) : Mends k (x >>= f) := by
  intro r
  rcases hr : x.run r with ⟨e | a, t⟩
  · obtain ⟨_, hforget, rfl⟩ := hx.run rfl hr
    exact .inr ⟨e, t, Eff.run_bind_error hr, Eff.run_bind_error hforget⟩
  · obtain ⟨_, hforget, rfl⟩ := hx.run rfl hr
    rw [Eff.run_bind_ok hr, Eff.run_bind_ok hforget]
    exact hf a t

/-- A new state that takes nothing of the old one's payload. -/
lemma overwrite {f : InState → InState} (hf : ∀ st, f st.forgotten = f st) :
    Mends k (do
      let st ← Eff.gets fun r => (r.states k).getD {}
      Eff.modify (setState k (f st))) := by
  intro r
  have hget : f (((r.forget k).states k).getD {}) = f ((r.states k).getD {}) := by
    rw [states_forget_self]
    cases r.states k with
    | none => rfl
    | some st => exact hf st
  refine .inl ⟨(), r.setState k (f ((r.states k).getD {})), rfl, ?_⟩
  rw [Eff.run_bind_ok (Eff.run_gets _ _), Eff.run_modify, hget, setState_forget]

lemma overwrite_required {f : InState → InState} (hf : ∀ st, f st.forgotten = f st) (text : String) :
    Mends k (do
      let st ← requireState k text
      Eff.modify (setState k (f st))) := by
  intro r
  cases hst : r.states k with
  | none =>
      have hrun : (requireState k text).run r = (.error (.invalidChunk text), r) := by
        rw [run_requireState, hst]
      have hrun' : (requireState k text).run (r.forget k)
          = (.error (.invalidChunk text), r.forget k) := by
        rw [run_requireState, states_forget_self, hst]
        rfl
      exact .inr ⟨_, r, Eff.run_bind_error hrun, Eff.run_bind_error hrun'⟩
  | some st =>
      have hrun : (requireState k text).run r = (.ok st, r) := by
        rw [run_requireState, hst]
      have hrun' : (requireState k text).run (r.forget k) = (.ok st.forgotten, r.forget k) := by
        rw [run_requireState, states_forget_self, hst]
        rfl
      refine .inl ⟨(), r.setState k (f st), Eff.run_bind_ok hrun, ?_⟩
      rw [Eff.run_bind_ok hrun', Eff.run_modify, hf, setState_forget]

lemma readFmt0Header : Mends k (readFmt0Header k) :=
  have hread := Forgot.readExactCounted k
  bind (respects_readU24Be hread) fun _ => bind (respects_readU24Be hread) fun _ =>
    bind (respects_readType hread) fun _ => bind (respects_readU32LeStreamId hread) fun _ =>
      bind (respects_readExtended hread _) fun _ => overwrite fun _ => rfl

lemma readFmt1Header : Mends k (readFmt1Header k) :=
  have hread := Forgot.readExactCounted k
  bind (respects_readU24Be hread) fun _ => bind (respects_readU24Be hread) fun _ =>
    bind (respects_readType hread) fun _ => bind (respects_readExtended hread _) fun _ =>
      overwrite_required (fun _ => rfl) _

lemma readFmt2Header : Mends k (readFmt2Header k) :=
  have hread := Forgot.readExactCounted k
  bind (respects_readU24Be hread) fun _ => bind (respects_readExtended hread _) fun _ =>
    overwrite_required (fun _ => rfl) _

end Mends

/-- The fmt and chunk stream id of the next chunk, if its whole header is there. -/
def readHeader : ReaderM (UInt32 × UInt8) := do
  let (csid, fmt) ← readBasicHeader
  readMessageHeader fmt csid
  pure (csid, fmt)

/-- The fmt is two bits wide. -/
lemma fmt_of_readBasicHeader {r t : ChunkReader} {csid : UInt32} {fmt : UInt8}
    (h : readBasicHeader.run r = (.ok (csid, fmt), t)) :
    fmt = 0 ∨ fmt = 1 ∨ fmt = 2 ∨ fmt = 3 := by
  have hbits : ∀ b : UInt8, (b >>> 6) &&& 0x03 = 0 ∨ (b >>> 6) &&& 0x03 = 1 ∨
      (b >>> 6) &&& 0x03 = 2 ∨ (b >>> 6) &&& 0x03 = 3 := Bytes.forall_byte (by decide +kernel)
  obtain ⟨b, r₁, -, hrest⟩ := Eff.run_bind_eq_ok.mp h
  obtain ⟨csid', r₂, -, hpair⟩ := Eff.run_bind_eq_ok.mp hrest
  cases hpair
  exact hbits _

variable {k csid : UInt32} {fmt : UInt8} {r t : ChunkReader} {e : Error}

/-- A header without fields of its own that is cut short leaves nothing but the forgotten. -/
lemma readFmt3Header_forget (h : (readFmt3Header k).run r = (.error e, t)) :
    (readFmt3Header k).run (r.forget k) = (.error e, t.forget k) := by
  cases hst : r.states k with
  | none =>
      have hrun : (requireState k "fmt 3 without prior fmt 0/1/2").run r
          = (.error (.invalidChunk "fmt 3 without prior fmt 0/1/2"), r) := by
        rw [run_requireState, hst]
      have hrun' : (requireState k "fmt 3 without prior fmt 0/1/2").run (r.forget k)
          = (.error (.invalidChunk "fmt 3 without prior fmt 0/1/2"), r.forget k) := by
        rw [run_requireState, states_forget_self, hst]
        rfl
      rw [readFmt3Header, Eff.run_bind_error hrun] at h
      cases h
      exact Eff.run_bind_error hrun'
  | some st =>
      have hrun : (requireState k "fmt 3 without prior fmt 0/1/2").run r = (.ok st, r) := by
        rw [run_requireState, hst]
      have hrun' : (requireState k "fmt 3 without prior fmt 0/1/2").run (r.forget k)
          = (.ok st.forgotten, r.forget k) := by
        rw [run_requireState, states_forget_self, hst]
        rfl
      rw [readFmt3Header, Eff.run_bind_ok hrun] at h
      rw [readFmt3Header, Eff.run_bind_ok hrun']
      -- both read the same repeated timestamp
      rcases hts : (readRepeatedTs st.lastHadExtTs).run r with ⟨e' | u, t'⟩
      · obtain ⟨_, hts', rfl⟩ := (respects_readRepeatedTs (Forgot.readExactCounted k)
          st.lastHadExtTs).run rfl hts
        rw [Eff.run_bind_error hts] at h
        cases h
        exact Eff.run_bind_error hts'
      · -- Past the repeated timestamp nothing fails.
        rw [Eff.run_bind_ok hts] at h
        split_ifs at h <;> cases h

/-- A header that is cut short leaves nothing but the forgotten. -/
lemma readMessageHeader_forget (h : (readMessageHeader fmt k).run r = (.error e, t)) :
    (readMessageHeader fmt k).run (r.forget k) = (.error e, t.forget k) := by
  have hmends : ∀ {x : ReaderM Unit}, Mends k x → x.run r = (.error e, t) →
      x.run (r.forget k) = (.error e, t.forget k) := by
    intro x hx hrun
    rcases hx r with ⟨a, t', hok, -⟩ | ⟨e', t', herror, hforget⟩
    · rw [hok] at hrun
      cases hrun
    · rw [herror] at hrun
      cases hrun
      exact hforget
  rw [readMessageHeader] at h ⊢
  split_ifs at h ⊢ with h0 h1 h2
  · exact hmends .readFmt0Header h
  · exact hmends .readFmt1Header h
  · exact hmends .readFmt2Header h
  · exact readFmt3Header_forget h

/-- A header with fields of its own makes the readers the same again. -/
lemma readMessageHeader_opened (hfmt : fmt = 0 ∨ fmt = 1 ∨ fmt = 2)
    (h : (readMessageHeader fmt k).run r = (.ok (), t)) :
    (readMessageHeader fmt k).run (r.forget k) = (.ok (), t) := by
  have hmends : ∀ {x : ReaderM Unit}, Mends k x → x.run r = (.ok (), t) →
      x.run (r.forget k) = (.ok (), t) := by
    intro x hx hrun
    rcases hx r with ⟨a, t', hok, hsame⟩ | ⟨e', t', herror, -⟩
    · rw [hok] at hrun
      cases hrun
      exact hsame
    · rw [herror] at hrun
      cases hrun
  rw [readMessageHeader] at h ⊢
  split_ifs at h ⊢ with h0 h1 h2
  · exact hmends .readFmt0Header h
  · exact hmends .readFmt1Header h
  · exact hmends .readFmt2Header h
  · exact absurd hfmt (by simp [h0, h1, h2])

/-- **Forgotten, and no message opened**: the chunk is read the same. -/
theorem readChunk_forget (h : ∀ fmt, (readHeader.run r).1 ≠ .ok (k, fmt)) :
    readChunk.run (r.forget k) = ((readChunk.run r).1, (readChunk.run r).2.forget k) := by
  have hblind := respects_readBasicHeader (Forgot.readExactCounted k)
  rcases hbasic : readBasicHeader.run r with ⟨e | ⟨csid, fmt⟩, r₁⟩
  · obtain ⟨_, hforget, rfl⟩ := hblind.run rfl hbasic
    have hrun : readChunk.run r = (.error e, r₁) := Eff.run_bind_error hbasic
    rw [hrun]
    exact Eff.run_bind_error hforget
  · obtain ⟨_, hforget, rfl⟩ := hblind.run rfl hbasic
    have hrun : readChunk.run r
        = (readMessageHeader fmt csid >>= fun _ => readPayload csid fmt).run r₁ :=
      Eff.run_bind_ok hbasic
    have hrun' : readChunk.run (r.forget k)
        = (readMessageHeader fmt csid >>= fun _ => readPayload csid fmt).run (r₁.forget k) :=
      Eff.run_bind_ok hforget
    rw [hrun, hrun']
    by_cases hcsid : csid = k
    · subst hcsid
      rcases hheader : (readMessageHeader fmt csid).run r₁ with ⟨e | u, r₂⟩
      · rw [Eff.run_bind_error hheader, Eff.run_bind_error (readMessageHeader_forget hheader)]
      · -- The whole header is there after all.
        have hread : readHeader.run r = (.ok (csid, fmt), r₂) := by
          rw [readHeader, Eff.run_bind_ok hbasic]
          exact Eff.run_bind_ok hheader
        exact absurd (congrArg Prod.fst hread) (h fmt)
    · -- a chunk of another stream does not look at what was forgotten
      obtain ⟨hsame, hstill⟩ := Forgot.readChunk_rest hcsid fmt r₁ (r₁.forget k) rfl
      exact Prod.ext hsame.symm hstill

/-- **Forgotten, and the next message opened**: the readers are the same again. -/
theorem readChunk_forget_opened (h : (readHeader.run r).1 = .ok (k, fmt)) (hfmt : fmt ≠ 3) :
    readChunk.run (r.forget k) = readChunk.run r := by
  obtain ⟨⟨csid, fmt'⟩, r₁, hbasic, hrest⟩ :=
    Eff.run_bind_eq_ok.mp (show readHeader.run r = (.ok (k, fmt), (readHeader.run r).2) from
      Prod.ext h rfl)
  obtain ⟨u, r₂, hheader, hpair⟩ := Eff.run_bind_eq_ok.mp hrest
  cases hpair
  obtain ⟨_, hforget, rfl⟩ := (respects_readBasicHeader (Forgot.readExactCounted k)).run rfl hbasic
  have hown : fmt = 0 ∨ fmt = 1 ∨ fmt = 2 := by
    rcases fmt_of_readBasicHeader hbasic with h0 | h1 | h2 | h3
    · exact .inl h0
    · exact .inr (.inl h1)
    · exact .inr (.inr h2)
    · exact absurd h3 hfmt
  rw [readChunk, Eff.run_bind_ok hbasic, Eff.run_bind_ok hforget, Eff.run_bind_ok hheader,
    Eff.run_bind_ok (readMessageHeader_opened hown hheader)]

end ChunkReader

end Rtmp
