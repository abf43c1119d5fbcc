import Rtmp.Chunk.Invariant

/-!
The reader under observation: it neither panics nor spins, whatever arrives and whatever it is told
between two reads.

* `Watched`: the reader once more, with its panics as outcomes of their own and a record of the exact
  reads, the payload reads and the rounds of the loop;
* `Watched.Sound`: the invariant of the reader, and what the record must show;
* `Follows`: an observed operation does what the reader does, without panicking, and stays sound;
* `calls_safe` (**no panic**): a run that mixes reads, also after errors, with chunk size changes and
  aborts in any order.
-/

namespace Rtmp

/-- How a call ends without a message: with an error it returns, at one of the places where it would
panic, or not at all. -/
inductive Fault where
  | error (e : Error)
  /-- `msg_length - partial.len()` below zero. -/
  | underflow
  /-- The state of a chunk stream is expected and missing. -/
  | absentState
  /-- The fourth fmt and no other. -/
  | unreachableFmt
  /-- More rounds than there are bytes. -/
  | spinning
  deriving DecidableEq, Repr

/-- The size of a payload read, and what bounds it. -/
structure Take where
  chunkSize : ℕ
  msgLength : ℕ
  size : ℕ
  deriving DecidableEq, Repr

/-- A reader and the record of its reads, oldest first. -/
structure Watched where
  reader : ChunkReader
  /-- Lengths of the exact reads that completed. -/
  reads : List ℕ := []
  takes : List Take := []
  /-- Bytes taken by each round of the loop that did not fail. -/
  rounds : List ℕ := []

/-- An operation of the reader under observation. -/
abbrev WatchM := Eff Fault Watched

namespace Watched

def noteRead (n : ℕ) (r : ChunkReader) (w : Watched) : Watched :=
  { w with reader := r, reads := w.reads ++ [n] }

def noteTake (t : Take) (w : Watched) : Watched := { w with takes := w.takes ++ [t] }

def noteRound (before : ℕ) (w : Watched) : Watched :=
  { w with rounds := w.rounds ++ [w.reads.sum - before] }

/-! ### The observed reader -/

/-- A step that reads nothing. -/
def quietly {α : Type} (x : ReaderM α) : WatchM α where
  run w := ((x.run w.reader).1.mapError .error, { w with reader := (x.run w.reader).2 })

/-- A completed read goes on record. -/
def readExactCounted (n : ℕ) : WatchM (List UInt8) where
  run w :=
    match (ChunkReader.readExactCounted n).run w.reader with
    | (.ok bs, r) => (.ok bs, w.noteRead n r)
    | (.error e, r) => (.error (.error e), { w with reader := r })

/-- A lookup that the code expects to succeed. -/
def presentState (csid : UInt32) : WatchM InState where
  run w :=
    match w.reader.states csid with
    | some st => (.ok st, w)
    | none => (.error .absentState, w)

def setState (csid : UInt32) (st : InState) : WatchM Unit :=
  quietly (Eff.modify (ChunkReader.setState csid st))

def readCsid (low : UInt8) : WatchM UInt32 :=
  if low = 0 then do
    let b1 ← readExactCounted 1
    pure ((b1.getD 0 0).toUInt32 + 64)
  else if low = 1 then do
    let b2 ← readExactCounted 2
    pure ((b2.getD 0 0).toUInt32 + (b2.getD 1 0).toUInt32 * 256 + 64)
  else
    pure low.toUInt32

def readBasicHeader : WatchM (UInt32 × UInt8) := do
  let b ← readExactCounted 1
  let fmt := (b.getD 0 0 >>> 6) &&& 0x03
  let low := b.getD 0 0 &&& 0x3F
  let csid ← readCsid low
  pure (csid, fmt)

def readU24Be : WatchM UInt32 := do
  let b ← readExactCounted 3
  pure (((b.getD 0 0).toUInt32 <<< 16) ||| ((b.getD 1 0).toUInt32 <<< 8) ||| (b.getD 2 0).toUInt32)

def readU32LeStreamId : WatchM UInt32 := do
  let b ← readExactCounted 4
  pure (UInt32.ofNat (Bytes.ofLe b))

def readU32Be : WatchM UInt32 := do
  let b ← readExactCounted 4
  pure (UInt32.ofNat (Bytes.ofBe b))

def readType : WatchM UInt8 := do
  let t ← readExactCounted 1
  pure (t.getD 0 0)

def readExtended (field : UInt32) : WatchM (UInt32 × Bool) := do
  let hadExtTs := field = 0x00FFFFFF
  if hadExtTs then
    let ts ← readU32Be
    pure (ts, true)
  else
    pure (field, false)

def readFmt0Header (csid : UInt32) : WatchM Unit := do
  let ts ← readU24Be
  let len ← readU24Be
  let ty ← readType
  let streamId ← readU32LeStreamId
  let (ts, hadExtTs) ← readExtended ts
  let st ← quietly (Eff.gets fun r => (r.states csid).getD {})
  setState csid { st with
    partialPayload := []
    msgTypeId := ty
    msgStreamId := streamId
    msgLength := len
    timestamp := ts
    lastDelta := ts
    lastHadExtTs := hadExtTs }

def readFmt1Header (csid : UInt32) : WatchM Unit := do
  let delta ← readU24Be
  let len ← readU24Be
  let ty ← readType
  let (delta, hadExtTs) ← readExtended delta
  let st ← quietly (ChunkReader.requireState csid "fmt 1 without prior fmt 0")
  setState csid { st with
    msgTypeId := ty
    msgLength := len
    timestamp := st.timestamp + delta
    lastDelta := delta
    lastHadExtTs := hadExtTs
    partialPayload := [] }

def readFmt2Header (csid : UInt32) : WatchM Unit := do
  let delta ← readU24Be
  let (delta, hadExtTs) ← readExtended delta
  let st ← quietly (ChunkReader.requireState csid "fmt 2 without prior fmt 0/1")
  setState csid { st with
    timestamp := st.timestamp + delta
    lastDelta := delta
    lastHadExtTs := hadExtTs
    partialPayload := [] }

def readRepeatedTs (hadExtTs : Bool) : WatchM Unit :=
  if hadExtTs then do
    let _dup ← readU32Be
    pure ()
  else
    pure ()

/-- The state is looked up again after the repeated timestamp, without a check. -/
def readFmt3Header (csid : UInt32) : WatchM Unit := do
  let st ← quietly (ChunkReader.requireState csid "fmt 3 without prior fmt 0/1/2")
  readRepeatedTs st.lastHadExtTs
  if st.partialPayload = [] then
    let cur ← presentState csid
    setState csid { cur with timestamp := cur.timestamp + st.lastDelta }
  else
    pure ()

def readMessageHeader (fmt : UInt8) (csid : UInt32) : WatchM Unit :=
  if fmt = 0 then readFmt0Header csid
  else if fmt = 1 then readFmt1Header csid
  else if fmt = 2 then readFmt2Header csid
  else if fmt = 3 then readFmt3Header csid
  else Eff.fail .unreachableFmt

/-- `a - b`, where `b` is not to be larger. -/
def checkedSub (a b : ℕ) : WatchM ℕ := if b ≤ a then pure (a - b) else Eff.fail .underflow

/-- The need is a checked difference, and the state is looked up again once the bytes are there. -/
def readPayload (csid : UInt32) (fmt : UInt8) : WatchM (Option Message) := do
  let st ← quietly (ChunkReader.requireState csid
    s!"fmt {fmt} chunk on csid {csid} without prior fmt-0 state")
  let need ← checkedSub st.msgLength.toNat st.partialPayload.length
  let size ← quietly (Eff.gets fun r => r.chunkSize.val)
  let take := min need size
  Eff.modify (noteTake ⟨size, st.msgLength.toNat, take⟩)
  let buf ← readExactCounted take
  let cur ← presentState csid
  let payload := cur.partialPayload ++ buf
  if UInt32.ofNat payload.length ≥ cur.msgLength then
    setState csid { cur with partialPayload := [] }
    pure (some
      { msgTypeId := cur.msgTypeId
        msgStreamId := cur.msgStreamId
        timestamp := cur.timestamp
        payload := payload })
  else
    setState csid { cur with partialPayload := payload }
    pure none

def readChunk : WatchM (Option Message) := do
  let (csid, fmt) ← readBasicHeader
  readMessageHeader fmt csid
  readPayload csid fmt

/-- One round, with the bytes it took on record. -/
def readRound : WatchM (Option Message) := do
  let before ← Eff.gets fun w => w.reads.sum
  let out ← readChunk
  Eff.modify (noteRound before)
  pure out

def readChunks : ℕ → WatchM Message
  | 0 => Eff.fail .spinning
  | rounds + 1 => do
      match ← readRound with
      | some msg => pure msg
      | none => readChunks rounds

def readMessage : WatchM Message where
  run w := (readChunks (w.reader.stream.length + 1)).run w

end Watched

/-! ### Runs of calls -/

/-- What a caller can do between two messages. -/
inductive Call where
  | readMessage
  | setChunkSize (size : ℕ)
  | abortPartial (csid : UInt32)
  deriving DecidableEq, Repr

namespace ChunkReader

/-- Calls in a row, and the outcomes of the reads; an error ends no run. -/
def calls : List Call → ChunkReader → List (Except Error Message) × ChunkReader
  | [], r => ([], r)
  | .readMessage :: cs, r =>
      let (out, r) := readMessage.run r
      let (outs, r) := calls cs r
      (out :: outs, r)
  | .setChunkSize size :: cs, r => calls cs (r.setChunkSize size)
  | .abortPartial csid :: cs, r => calls cs (r.abortPartial csid).2

end ChunkReader

namespace Watched

/-- The same calls under observation. -/
def calls : List Call → Watched → List (Except Fault Message) × Watched
  | [], w => ([], w)
  | .readMessage :: cs, w =>
      let (out, w) := readMessage.run w
      let (outs, w) := calls cs w
      (out :: outs, w)
  | .setChunkSize size :: cs, w => calls cs { w with reader := w.reader.setChunkSize size }
  | .abortPartial csid :: cs, w => calls cs { w with reader := (w.reader.abortPartial csid).2 }

end Watched

/-! ### What the record shows -/

/-- The invariant of the reader, the received bytes as the sum of the completed reads, each payload
read within its bounds, and no round for free. -/
structure Watched.Sound (w : Watched) : Prop where
  wellFormed : w.reader.WellFormed
  received : w.reader.receivedBytes = UInt32.ofNat w.reads.sum
  takes : ∀ t ∈ w.takes, t.size ≤ min t.chunkSize t.msgLength
  rounds : ∀ n ∈ w.rounds, 1 ≤ n

/-- Bytes read so far, and events still to come. -/
def Watched.total (w : Watched) : ℕ := w.reads.sum + w.reader.stream.length

/-- `y` does under observation what `x` does: from a sound state whose reader satisfies `P` it has the
outcome of `x`, which is no panic, its reader and a sound record; a success leaves `Q`, and took
nothing off the stream but what was counted. -/
def Follows {α : Type} (P : ChunkReader → Prop) (x : ReaderM α) (y : WatchM α)
    (Q : α → ChunkReader → Prop) : Prop :=
  ∀ w : Watched, w.Sound → P w.reader →
    ∃ w', y.run w = ((x.run w.reader).1.mapError .error, w') ∧ w'.reader = (x.run w.reader).2 ∧
      w'.Sound ∧ ∀ a, (x.run w.reader).1 = .ok a → Q a w'.reader ∧ w'.total = w.total

namespace Follows

open Watched

variable {α β : Type} {P P' : ChunkReader → Prop} {x : ReaderM α} {y : WatchM α}
  {Q Q' : α → ChunkReader → Prop}

lemma weaken (h : Follows P x y Q) (hP : ∀ r, P' r → P r) (hQ : ∀ a r, Q a r → Q' a r) :
    Follows P' x y Q' := by
  intro w hw hp
  obtain ⟨w', hrun, hreader, hsound, hq⟩ := h w hw (hP _ hp)
  exact ⟨w', hrun, hreader, hsound, fun a ha => ⟨hQ a _ (hq a ha).1, (hq a ha).2⟩⟩

lemma pure (a : α) (h : ∀ r, P r → Q a r) : Follows P (pure a) (pure a) Q := by
  intro w hw hp
  refine ⟨w, rfl, rfl, hw, ?_⟩
  rintro b ⟨⟩
  exact ⟨h _ hp, rfl⟩

lemma bind {R : α → ChunkReader → Prop} {f : α → ReaderM β} {g : α → WatchM β}
    {S : β → ChunkReader → Prop} (hx : Follows P x y R) (hf : ∀ a, Follows (R a) (f a) (g a) S) :
    Follows P (x >>= f) (y >>= g) S := by
  intro w hw hp
  obtain ⟨w₁, hrun, hreader, hsound, hr⟩ := hx w hw hp
  rcases hxr : x.run w.reader with ⟨e | a, r₁⟩
  · rw [hxr] at hrun hreader
    rw [Eff.run_bind_error hxr, Eff.run_bind_error hrun]
    refine ⟨w₁, rfl, hreader, hsound, ?_⟩
    rintro b ⟨⟩
  · rw [hxr] at hrun hreader hr
    rw [Eff.run_bind_ok hxr, Eff.run_bind_ok hrun]
    subst hreader
    obtain ⟨hra, htotal⟩ := hr a rfl
    obtain ⟨w₂, hrun₂, hreader₂, hsound₂, hs⟩ := hf a w₁ hsound hra
    exact ⟨w₂, hrun₂, hreader₂, hsound₂, fun b hb => ⟨(hs b hb).1, (hs b hb).2.trans htotal⟩⟩

lemma ite {p : Prop} [Decidable p] {x' : ReaderM α} {y' : WatchM α} (h : p → Follows P x y Q)
    (h' : ¬ p → Follows P x' y' Q) : Follows P (if p then x else x') (if p then y else y') Q := by
  split_ifs with hp
  · exact h hp
  · exact h' hp

/-- A precondition that carries a fact about values alone. -/
lemma of_fact {p : Prop} (h : p → Follows P x y Q) : Follows (fun r => p ∧ P r) x y Q :=
  fun w hw hp => h hp.1 w hw hp.2

/-- A step that reads nothing: it keeps the invariant and counts nothing. -/
lemma quietly (hwell : Eff.Triple ChunkReader.WellFormed x (fun _ => ChunkReader.WellFormed)
      ChunkReader.WellFormed)
    (hcount : ∀ r, (x.run r).2.receivedBytes = r.receivedBytes)
    (hstream : ∀ r, (x.run r).2.stream = r.stream)
    (hQ : ∀ r a r', P r → x.run r = (.ok a, r') → Q a r') :
    Follows P x (quietly x) Q := by
  intro w hw hp
  have hreader : ((x.run w.reader).2).WellFormed := by
    have h := hwell w.reader hw.wellFormed
    rcases hx : x.run w.reader with ⟨_ | _, _⟩ <;> rw [hx] at h <;> exact h
  have hsound : Sound { w with reader := (x.run w.reader).2 } :=
    ⟨hreader, (hcount _).trans hw.received, hw.takes, hw.rounds⟩
  refine ⟨_, rfl, rfl, hsound, fun a ha => ⟨hQ w.reader a _ hp (Prod.ext ha rfl), ?_⟩⟩
  rw [total, total, hstream]

/-- An exact read: what is read into one buffer is counted once. -/
lemma readExactCounted (n : ℕ) (hP : ∀ r es, P r → P (r.advance n es)) :
    Follows P (ChunkReader.readExactCounted n) (readExactCounted n)
      fun bs r => bs.length = n ∧ P r := by
  intro w hw hp
  have hwell := ChunkReader.readExactCounted_wellFormed n w.reader hw.wellFormed
  rcases hx : (ChunkReader.readExactCounted n).run w.reader with ⟨e | bs, r⟩
  · have hrun : (Watched.readExactCounted n).run w = (.error (.error e), { w with reader := r }) := by
      simp only [Watched.readExactCounted, hx]
    -- the counter is the sum of the reads, cut to 32 bits
    have hcount : r.receivedBytes = w.reader.receivedBytes := by
      rw [ChunkReader.run_readExactCounted] at hx
      rcases hread : readExact n w.reader.stream with ⟨_ | _, _⟩ <;> rw [hread] at hx <;> cases hx
      rfl
    rw [hx] at hwell
    refine ⟨_, hrun, rfl, ⟨hwell, hcount.trans hw.received, hw.takes, hw.rounds⟩, ?_⟩
    rintro b ⟨⟩
  · have hrun : (Watched.readExactCounted n).run w = (.ok bs, w.noteRead n r) := by
      simp only [Watched.readExactCounted, hx]
    obtain ⟨hlen, hstream, hr⟩ := ChunkReader.readExactCounted_eq_ok hx
    rw [hx] at hwell
    have hsum : (w.noteRead n r).reads.sum = w.reads.sum + n := by
      rw [noteRead, List.sum_append, List.sum_singleton]
    have hcount : r.receivedBytes = UInt32.ofNat (w.noteRead n r).reads.sum := by
      rw [hsum, UInt32.ofNat_add, ← hw.received, hr]
      rfl
    refine ⟨_, hrun, rfl, ⟨hwell.2, hcount, hw.takes, hw.rounds⟩, ?_⟩
    rintro b ⟨⟩
    refine ⟨⟨hlen, ?_⟩, ?_⟩
    · rw [noteRead, hr]
      exact hP _ _ hp
    · rw [total, total, hsum, hstream, List.length_append, ReadEvent.length_bytes, hlen]
      exact Nat.add_assoc _ _ _

lemma setState (csid : UInt32) {st : InState} (h : st.WellFormed) :
    Follows P (Eff.modify (ChunkReader.setState csid st)) (setState csid st) fun _ _ => True :=
  quietly (ChunkReader.setState_wellFormed csid h) (fun _ => rfl) (fun _ => rfl)
    fun _ _ _ _ _ => trivial

/-- The chunk stream `csid` has the state `st`. -/
def Holds (csid : UInt32) (st : InState) (r : ChunkReader) : Prop := r.states csid = some st

lemma requireState (csid : UInt32) (text : String) :
    Follows P (ChunkReader.requireState csid text)
      (Watched.quietly (ChunkReader.requireState csid text)) fun st r => Holds csid st r := by
  refine quietly ?_ ?_ ?_ ?_
  · exact (ChunkReader.requireState_wellFormed csid text).weaken (fun _ h => h) fun _ _ h => h.2
  · intro r
    rw [ChunkReader.run_requireState]
    cases r.states csid <;> rfl
  · intro r
    rw [ChunkReader.run_requireState]
    cases r.states csid <;> rfl
  · intro r st r' _ h
    rw [ChunkReader.run_requireState] at h
    cases hst : r.states csid <;> rw [hst] at h <;> cases h
    exact hst

/-- A state that is there is found again. -/
lemma presentState_bind {csid : UInt32} {st : InState} {g : InState → WatchM α}
    (h : Follows (Holds csid st) x (g st) Q) :
    Follows (Holds csid st) x (presentState csid >>= g) Q := by
  intro w hw hp
  have hrun : (presentState csid).run w = (.ok st, w) := by
    have hp : w.reader.states csid = some st := hp
    simp only [presentState, hp]
  rw [Eff.run_bind_ok hrun]
  exact h w hw hp

/-- A sound state's buffer is no longer than the message. -/
lemma of_holds {csid : UInt32} {st : InState} (h : st.WellFormed → Follows (Holds csid st) x y Q) :
    Follows (Holds csid st) x y Q :=
  fun w hw hp => h (hw.wellFormed csid st hp) w hw hp

/-- A difference of which the second is no larger. -/
lemma checkedSub_bind {a b : ℕ} {g : ℕ → WatchM α} (hle : b ≤ a) (h : Follows P x (g (a - b)) Q) :
    Follows P x (checkedSub a b >>= g) Q := by
  intro w hw hp
  have hrun : (checkedSub a b).run w = (.ok (a - b), w) := by
    rw [checkedSub, if_pos hle]
    rfl
  rw [Eff.run_bind_ok hrun]
  exact h w hw hp

/-- A payload read within its bounds goes on record. -/
lemma noteTake_bind {t : Take} {g : Unit → WatchM α} (ht : t.size ≤ min t.chunkSize t.msgLength)
    (h : Follows P x (g ()) Q) : Follows P x (Eff.modify (noteTake t) >>= g) Q := by
  intro w hw hp
  refine h (w.noteTake t) ⟨hw.wellFormed, hw.received, ?_, hw.rounds⟩ hp
  intro t' ht'
  rcases List.mem_append.mp ht' with hmem | hmem
  · exact hw.takes t' hmem
  · rw [List.mem_singleton.mp hmem]
    exact ht

/-! ### Each operation -/

lemma readAny (n : ℕ) : Follows (fun _ => True) (ChunkReader.readExactCounted n)
    (Watched.readExactCounted n) fun bs _ => bs.length = n ∧ True :=
  readExactCounted n fun _ _ _ => trivial

lemma readCsid (low : UInt8) :
    Follows (fun _ => True) (ChunkReader.readCsid low) (readCsid low) fun _ _ => True :=
  ite (fun _ => (readAny 1).bind fun _ => pure _ fun _ _ => trivial) fun _ =>
    ite (fun _ => (readAny 2).bind fun _ => pure _ fun _ _ => trivial) fun _ =>
      pure _ fun _ _ => trivial

/-- The fmt is two bits wide. -/
lemma readBasicHeader :
    Follows (fun _ => True) ChunkReader.readBasicHeader readBasicHeader
      fun header _ => header.2.toNat < 4 ∧ True := by
  refine (readAny 1).bind fun b => ((readCsid _).weaken (fun _ _ => trivial) fun _ _ h => h).bind
    fun csid => pure _ fun _ _ => ⟨?_, trivial⟩
  have hle : ((b.getD 0 0 >>> 6) &&& 3).toNat ≤ 3 := by
    rw [UInt8.toNat_and]
    exact Nat.and_le_right
  exact Nat.lt_succ_of_le hle

lemma readU24Be :
    Follows (fun _ => True) ChunkReader.readU24Be readU24Be fun v _ => v.toNat < 2 ^ 24 ∧ True := by
  refine (readAny 3).bind fun bs => pure _ fun _ _ => ⟨?_, trivial⟩
  rw [Bytes.u24_shift_or]
  exact lt_of_lt_of_eq (Bytes.ofBe_lt _) (by norm_num)

lemma readU32LeStreamId :
    Follows (fun _ => True) ChunkReader.readU32LeStreamId readU32LeStreamId fun _ _ => True :=
  (readAny 4).bind fun _ => pure _ fun _ _ => trivial

lemma readU32Be (hP : ∀ r n es, P r → P (r.advance n es)) :
    Follows P ChunkReader.readU32Be readU32Be fun _ r => P r :=
  (readExactCounted 4 fun r => hP r 4).bind fun _ => pure _ fun _ h => h.2

lemma readType : Follows (fun _ => True) ChunkReader.readType readType fun _ _ => True :=
  (readAny 1).bind fun _ => pure _ fun _ _ => trivial

lemma readExtended (field : UInt32) :
    Follows (fun _ => True) (ChunkReader.readExtended field) (readExtended field) fun _ _ => True :=
  ite (fun _ => (readU32Be fun _ _ _ _ => trivial).bind fun _ => pure _ fun _ _ => trivial) fun _ =>
    pure _ fun _ _ => trivial

lemma readFmt0Header (csid : UInt32) :
    Follows (fun _ => True) (ChunkReader.readFmt0Header csid) (readFmt0Header csid)
      fun _ _ => True := by
  refine readU24Be.bind fun ts => of_fact fun _ => readU24Be.bind fun len => of_fact fun hlen => ?_
  refine readType.bind fun ty => readU32LeStreamId.bind fun sid => (readExtended ts).bind fun ext => ?_
  refine bind (R := fun _ _ => True) (quietly ?_ (fun _ => rfl) (fun _ => rfl)
    fun _ _ _ _ _ => trivial) fun st => ?_
  · exact .gets fun _ h => h
  · exact setState csid (ChunkReader.wellFormed_of_empty hlen rfl)

lemma readFmt1Header (csid : UInt32) :
    Follows (fun _ => True) (ChunkReader.readFmt1Header csid) (readFmt1Header csid)
      fun _ _ => True := by
  refine readU24Be.bind fun delta => of_fact fun _ =>
    readU24Be.bind fun len => of_fact fun hlen => ?_
  refine readType.bind fun ty => (readExtended delta).bind fun ext => ?_
  refine (requireState csid _).bind fun st => ?_
  exact setState csid (ChunkReader.wellFormed_of_empty hlen rfl)

lemma readFmt2Header (csid : UInt32) :
    Follows (fun _ => True) (ChunkReader.readFmt2Header csid) (readFmt2Header csid)
      fun _ _ => True := by
  refine readU24Be.bind fun delta => of_fact fun _ => (readExtended delta).bind fun ext => ?_
  refine (requireState csid _).bind fun st => of_holds fun hst => ?_
  exact setState csid (ChunkReader.wellFormed_of_empty hst.length_lt rfl)

lemma readFmt3Header (csid : UInt32) :
    Follows (fun _ => True) (ChunkReader.readFmt3Header csid) (readFmt3Header csid)
      fun _ _ => True := by
  refine (requireState csid _).bind fun st => of_holds fun hst => ?_
  have hdup : Follows (Holds csid st) (ChunkReader.readRepeatedTs st.lastHadExtTs)
      (readRepeatedTs st.lastHadExtTs) fun _ r => Holds csid st r :=
    ite (fun _ => (readU32Be fun _ _ _ h => h).bind fun _ => pure _ fun _ h => h) fun _ =>
      pure _ fun _ h => h
  refine hdup.bind fun _ => ite (fun hnil => presentState_bind ?_) fun _ => pure _ fun _ _ => trivial
  exact setState csid (ChunkReader.wellFormed_of_empty hst.length_lt hnil)

lemma readMessageHeader {fmt : UInt8} (csid : UInt32) (hfmt : fmt.toNat < 4) :
    Follows (fun _ => True) (ChunkReader.readMessageHeader fmt csid) (readMessageHeader fmt csid)
      fun _ _ => True := by
  refine ite (fun _ => readFmt0Header csid) fun h0 => ite (fun _ => readFmt1Header csid) fun h1 =>
    ite (fun _ => readFmt2Header csid) fun h2 => ?_
  have h3 : fmt = 3 := by
    rw [← UInt8.toNat_inj] at h0 h1 h2 ⊢
    simp only [UInt8.reduceToNat] at h0 h1 h2 ⊢
    omega
  rw [if_pos h3]
  exact readFmt3Header csid

/-- The need is a difference that exists, and the state is still there behind the read. -/
lemma readPayload (csid : UInt32) (fmt : UInt8) :
    Follows (fun _ => True) (ChunkReader.readPayload csid fmt) (readPayload csid fmt)
      fun _ _ => True := by
  refine (requireState csid _).bind fun st => of_holds fun hst => checkedSub_bind hst.length_le ?_
  refine bind (R := fun _ => Holds csid st) (quietly ?_ (fun _ => rfl) (fun _ => rfl) ?_)
    fun size => ?_
  · exact .gets fun _ h => h
  · rintro r a _ hr ⟨⟩
    exact hr
  -- no more is allocated than a chunk holds
  have hle : min (st.msgLength.toNat - st.partialPayload.length) size ≤ min size st.msgLength.toNat :=
    le_min (min_le_right _ _) ((min_le_left _ _).trans (Nat.sub_le _ _))
  refine noteTake_bind hle ((readExactCounted _ fun _ _ h => h).bind fun buf => of_fact fun hbuf => ?_)
  refine presentState_bind (ite (fun _ => ?_) fun hmore => ?_)
  · have hempty : ({ st with partialPayload := [] } : InState).WellFormed :=
      ChunkReader.wellFormed_of_empty hst.length_lt rfl
    exact (setState csid hempty).bind fun _ => pure _ fun _ _ => trivial
  · have hlt := hst.length_lt
    have hlen := hst.length_le
    have hpayload : (st.partialPayload ++ buf).length ≤ st.msgLength.toNat := by
      rw [List.length_append, hbuf]
      omega
    have hshort : (st.partialPayload ++ buf).length < st.msgLength.toNat := by
      rw [ge_iff_le, UInt32.le_iff_toNat_le, UInt32.toNat_ofNat'] at hmore
      omega
    have hfilled : ({ st with partialPayload := st.partialPayload ++ buf } : InState).WellFormed :=
      ⟨hlt, fun _ => hshort⟩
    exact (setState csid hfilled).bind fun _ => pure _ fun _ _ => trivial

lemma readChunk :
    Follows (fun _ => True) ChunkReader.readChunk readChunk fun _ _ => True :=
  readBasicHeader.bind fun _ => of_fact fun hfmt => (readMessageHeader _ hfmt).bind fun _ =>
    readPayload _ _

/-- A round that does not fail took at least a byte. -/
lemma readRound : Follows (fun _ => True) ChunkReader.readChunk readRound fun _ _ => True := by
  intro w hw hp
  obtain ⟨w', hrun, hreader, hsound, hq⟩ := readChunk w hw hp
  have hbefore : (Eff.gets (fun w : Watched => w.reads.sum) : WatchM ℕ).run w
      = (.ok w.reads.sum, w) := rfl
  rcases hx : ChunkReader.readChunk.run w.reader with ⟨e | out, r⟩
  · rw [hx] at hrun hreader
    rw [Watched.readRound, Eff.run_bind_ok hbefore, Eff.run_bind_error hrun]
    refine ⟨w', rfl, hreader, hsound, ?_⟩
    rintro b ⟨⟩
  · rw [hx] at hrun hreader hq
    obtain ⟨-, htotal⟩ := hq out rfl
    have hshrinks := ChunkReader.readChunk_shrinks hx
    -- a round that went well has taken a byte off the stream
    have hgrows : 1 ≤ w'.reads.sum - w.reads.sum := by
      have hreader : w'.reader = r := hreader
      rw [total, total, hreader] at htotal
      omega
    have hnote : Sound (w'.noteRound w.reads.sum) := by
      refine ⟨hsound.wellFormed, hsound.received, hsound.takes, ?_⟩
      intro n hn
      rcases List.mem_append.mp hn with hmem | hmem
      · exact hsound.rounds n hmem
      · rw [List.mem_singleton.mp hmem]
        exact hgrows
    rw [Watched.readRound, Eff.run_bind_ok hbefore, Eff.run_bind_ok hrun]
    exact ⟨_, rfl, hreader, hnote, fun _ _ => ⟨trivial, htotal⟩⟩

/-- The loop does not go round more often than there are bytes. -/
lemma readChunks (n : ℕ) :
    Follows (fun r => r.stream.length < n) (ChunkReader.readChunks n) (readChunks n)
      fun _ _ => True := by
  induction n with
  | zero => exact fun w _ hp => absurd hp (Nat.not_lt_zero _)
  | succ n ih =>
      have hround : Follows (fun r => r.stream.length < n + 1) ChunkReader.readChunk
          Watched.readRound fun _ r => r.stream.length < n := by
        intro w hw hp
        obtain ⟨w', hrun, hreader, hsound, hq⟩ := readRound w hw trivial
        refine ⟨w', hrun, hreader, hsound, fun out hout => ⟨?_, (hq out hout).2⟩⟩
        have hshrinks := ChunkReader.readChunk_shrinks (Prod.ext hout hreader.symm)
        exact Nat.lt_of_lt_of_le hshrinks (Nat.le_of_lt_succ hp)
      refine hround.bind fun out => ?_
      cases out with
      | none => exact ih
      | some msg => exact pure _ fun _ _ => trivial

lemma readMessage :
    Follows (fun _ => True) ChunkReader.readMessage readMessage fun _ _ => True :=
  fun w hw _ => readChunks (w.reader.stream.length + 1) w hw (Nat.lt_succ_self _)

end Follows

/-! ### Runs -/

namespace Watched

lemma sound_new (es : List ReadEvent) : Sound { reader := .new es } where
  wellFormed := ChunkReader.wellFormed_new es
  received := rfl
  takes _ h := absurd h List.not_mem_nil
  rounds _ h := absurd h List.not_mem_nil

lemma Sound.setChunkSize {w : Watched} (h : w.Sound) (size : ℕ) :
    Sound { w with reader := w.reader.setChunkSize size } :=
  ⟨h.wellFormed, h.received, h.takes, h.rounds⟩

lemma Sound.abortPartial {w : Watched} (h : w.Sound) (csid : UInt32) :
    Sound { w with reader := (w.reader.abortPartial csid).2 } := by
  have hreceived : (w.reader.abortPartial csid).2.receivedBytes = w.reader.receivedBytes := by
    rw [ChunkReader.abortPartial]
    rcases w.reader.states csid with _ | st
    · rfl
    · by_cases hnil : st.partialPayload ≠ []
      · simp only [if_pos hnil]
        rfl
      · simp only [if_neg hnil]
  exact ⟨h.wellFormed.abortPartial csid, hreceived.trans h.received, h.takes, h.rounds⟩

/-- One call, and then a whole run, keeps the record sound and never panics. -/
theorem calls_sound (cs : List Call) {w : Watched} (h : w.Sound) :
    (calls cs w).2.Sound ∧ (calls cs w).2.reader = (ChunkReader.calls cs w.reader).2 ∧
      (calls cs w).1 = (ChunkReader.calls cs w.reader).1.map fun out => out.mapError .error := by
  induction cs generalizing w with
  | nil => exact ⟨h, rfl, rfl⟩
  | cons c cs ih =>
      cases c with
      | readMessage =>
          obtain ⟨w', hrun, hreader, hsound, -⟩ := Follows.readMessage w h trivial
          obtain ⟨hs, hr, ho⟩ := ih hsound
          simp only [calls, ChunkReader.calls, hrun, ← hreader, List.map_cons]
          exact ⟨hs, hr, congrArg _ ho⟩
      | setChunkSize size => exact ih (h.setChunkSize size)
      | abortPartial csid => exact ih (h.abortPartial csid)

end Watched

/-- **No panic**: whatever arrives and however reads, also after errors, chunk size changes and aborts
follow each other, a buffer in use is short of its message; no read panics or loops on; each round took
a byte; each payload read is within the chunk size and the message length; and the received bytes are
the completed reads, modulo `2^32`. -/
theorem calls_safe (es : List ReadEvent) (cs : List Call) :
    let run := Watched.calls cs { reader := .new es }
    let w := run.2
    (∀ csid st, w.reader.states csid = some st → st.partialPayload ≠ [] →
        st.partialPayload.length < st.msgLength.toNat) ∧
      (∀ out ∈ run.1, ∀ fault, out = .error fault → ∃ e, fault = .error e) ∧
      (∀ n ∈ w.rounds, 1 ≤ n) ∧
      (∀ t ∈ w.takes, t.size ≤ min t.chunkSize t.msgLength) ∧
      w.reader.receivedBytes.toNat = w.reads.sum % 2 ^ 32 ∧
      run.1 = (ChunkReader.calls cs (.new es)).1.map (fun out => out.mapError .error) ∧
      w.reader = (ChunkReader.calls cs (.new es)).2 := by
  intro run w
  obtain ⟨hsound, hreader, houts⟩ := Watched.calls_sound cs (Watched.sound_new es)
  refine ⟨fun csid st hst => (hsound.wellFormed csid st hst).short, ?_, hsound.rounds, hsound.takes,
    ?_, houts, hreader⟩
  · intro out hout fault herror
    have hmem : out ∈ (ChunkReader.calls cs (.new es)).1.map fun out => out.mapError Fault.error :=
      houts ▸ hout
    obtain ⟨out', -, rfl⟩ := List.mem_map.mp hmem
    cases out' with
    | error e =>
        cases herror
        exact ⟨e, rfl⟩
    | ok msg => cases herror
  · have hreceived : w.reader.receivedBytes = UInt32.ofNat w.reads.sum := hsound.received
    rw [hreceived, UInt32.toNat_ofNat']

end Rtmp
