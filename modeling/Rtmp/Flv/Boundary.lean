import Rtmp.Flv.File

/-!
What stands at the front of an FLV stream, and where a reader gets to.

* `RawFrame`, `Corrupt`, `Torn`: a whole frame, one that fails a check, and the beginning of one;
* `front_cases`: nothing else stands at the front of bytes;
* `FlvReader.readFrame_raw`, `readFrame_corrupt`, `readFrame_torn`: what a reader makes of each, and
  where it is left;
* `Boundary`: the places where frames end;
* `neverPast_iff_stops` (**recovery**): calls look for tags at boundaries alone exactly as long as no
  call is made behind a frame that failed a check.
-/

namespace Rtmp.Flv

/-! ### The front of a stream -/

/-- The size of the body, as the eleven bytes in front of it say. -/
def dataSize (header : List UInt8) : ℕ := Bytes.ofBe ((header.drop 1).take 3)

/-- The stream id, which is to be zero. -/
def streamId (header : List UInt8) : ℕ := Bytes.ofBe (header.drop 8)

/-- A frame with the size of its tag behind it, which passes the checks of a reader. -/
structure RawFrame (maxTagSize : UInt32) where
  header : List UInt8
  body : List UInt8
  prev : List UInt8
  length_header : header.length = 11
  dataSize_le : dataSize header ≤ maxTagSize.toNat
  streamId_eq : streamId header = 0
  length_body : body.length = dataSize header
  length_prev : prev.length = 4
  prev_eq : Bytes.ofBe prev = 11 + dataSize header

/-- All bytes of the frame. -/
def RawFrame.bytes {maxTagSize : UInt32} (f : RawFrame maxTagSize) : List UInt8 :=
  f.header ++ (f.body ++ f.prev)

/-- The bytes begin with a frame that fails a check; `rest` is left behind what the check took. -/
inductive Corrupt (maxTagSize : UInt32) : List UInt8 → List UInt8 → Prop
  | dataSize {header rest : List UInt8} (hlen : header.length = 11)
      (h : maxTagSize.toNat < dataSize header) : Corrupt maxTagSize (header ++ rest) rest
  | streamId {header rest : List UInt8} (hlen : header.length = 11) (h : streamId header ≠ 0) :
      Corrupt maxTagSize (header ++ rest) rest
  | prev {header body prev rest : List UInt8} (hlen : header.length = 11)
      (hsize : Flv.dataSize header ≤ maxTagSize.toNat) (hstream : Flv.streamId header = 0)
      (hbody : body.length = Flv.dataSize header) (hprev : prev.length = 4)
      (h : Bytes.ofBe prev ≠ 11 + Flv.dataSize header) :
      Corrupt maxTagSize (header ++ (body ++ (prev ++ rest))) rest

/-- The bytes are the beginning of a frame that may pass the checks, and no more. -/
inductive Torn (maxTagSize : UInt32) : List UInt8 → Prop
  | header {bytes : List UInt8} (hne : bytes ≠ []) (hlen : bytes.length < 11) : Torn maxTagSize bytes
  | body {header rest : List UInt8} (hlen : header.length = 11)
      (hsize : dataSize header ≤ maxTagSize.toNat) (hstream : streamId header = 0)
      (h : rest.length < dataSize header + 4) : Torn maxTagSize (header ++ rest)

/-- Every front is one of the three. -/
lemma front_cases (maxTagSize : UInt32) {bytes : List UInt8} (hne : bytes ≠ []) :
    (∃ (f : RawFrame maxTagSize) (rest : List UInt8), bytes = f.bytes ++ rest) ∨
      (∃ rest, Corrupt maxTagSize bytes rest) ∨ Torn maxTagSize bytes := by
  by_cases hlen : bytes.length < 11
  · exact .inr (.inr (.header hne hlen))
  -- the checks of the reader, in its order
  obtain ⟨header, rest, rfl, hheader⟩ : ∃ header rest, bytes = header ++ rest ∧ header.length = 11 :=
    ⟨bytes.take 11, bytes.drop 11, (List.take_append_drop 11 bytes).symm,
      List.length_take_of_le (Nat.not_lt.mp hlen)⟩
  by_cases hsize : maxTagSize.toNat < dataSize header
  · exact .inr (.inl ⟨rest, .dataSize hheader hsize⟩)
  by_cases hstream : streamId header ≠ 0
  · exact .inr (.inl ⟨rest, .streamId hheader hstream⟩)
  have hsize := Nat.not_lt.mp hsize
  have hstream := not_ne_iff.mp hstream
  by_cases hrest : rest.length < dataSize header + 4
  · exact .inr (.inr (.body hheader hsize hstream hrest))
  obtain ⟨body, tail, rfl, hbody⟩ : ∃ body tail, rest = body ++ tail ∧ body.length = dataSize header :=
    ⟨rest.take (dataSize header), rest.drop (dataSize header),
      (List.take_append_drop _ rest).symm, List.length_take_of_le (by omega)⟩
  rw [List.length_append] at hrest
  obtain ⟨prev, left, rfl, hprev⟩ : ∃ prev left, tail = prev ++ left ∧ prev.length = 4 :=
    ⟨tail.take 4, tail.drop 4, (List.take_append_drop 4 tail).symm,
      List.length_take_of_le (by omega)⟩
  by_cases hback : Bytes.ofBe prev = 11 + dataSize header
  · refine .inl ⟨⟨header, body, prev, hheader, hsize, hstream, hbody, hprev, hback⟩, left, ?_⟩
    simp [RawFrame.bytes]
  · exact .inr (.inl ⟨left, .prev hheader hsize hstream hbody hprev hback⟩)

namespace FlvReader

variable {r : FlvReader} {rest : List UInt8}

/-- The reader has taken a header, and what is left is `rest`. -/
def behindHeader (r : FlvReader) (rest : List UInt8) : FlvReader :=
  { r with inner := rest, bytesRead := r.bytesRead + UInt64.ofNat 11 }

/-- The reader stands elsewhere in the same stream. -/
structure Moves (r r' : FlvReader) (rest : List UInt8) : Prop where
  inner : r'.inner = rest
  exhausted : r'.exhausted = false
  maxTagSize : r'.maxTagSize = r.maxTagSize

/-- The frame behind a header. -/
def frameOf (header body : List UInt8) : Frame where
  filter := (header.getD 0 0 >>> 5) &&& 0x01
  tagType := header.getD 0 0 &&& 0x1F
  timestampMs := ((header.getD 7 0).toUInt32 <<< 24)
    ||| UInt32.ofNat (Bytes.ofBe ((header.drop 4).take 3))
  body

section Header

variable {header : List UInt8} (hr : r.inner = header ++ rest) (hlen : header.length = 11)
  (hopen : r.exhausted = false)

include hr hlen hopen

/-- A header that fails a check is taken, and nothing else. -/
lemma readFrame_header_error (hbad : r.maxTagSize.toNat < dataSize header ∨ streamId header ≠ 0) :
    ∃ text, readFrame.run r = (.error (.other text), r.behindHeader rest) := by
  obtain ⟨rawType, fields, rfl⟩ := List.exists_cons_of_length_eq_add_one hlen
  have hfirst : readFirst.run r = (.ok (some rawType), { r with inner := fields ++ rest }) := by
    rw [readFirst]
    simp only [hr, List.cons_append]
  have hread : (readExact 10).run { r with inner := fields ++ rest }
      = (.ok fields, { r with inner := rest }) := run_readExact rfl (Nat.succ_inj.mp hlen)
  have hsize : Bytes.ofBe (fields.take 3) = dataSize (rawType :: fields) := rfl
  have hstream : Bytes.ofBe (fields.drop 7) = streamId (rawType :: fields) := rfl
  have hframed : ∃ text, (readFramed rawType).run { r with inner := fields ++ rest }
      = (.error (.other text), r.behindHeader rest) := by
    rw [readFramed, Eff.run_bind_ok hread, run_count_bind, Eff.run_gets_bind]
    simp only [hsize, hstream]
    by_cases hlarge : r.maxTagSize.toNat < dataSize (rawType :: fields)
    · rw [if_pos hlarge]
      exact ⟨_, rfl⟩
    · rw [if_neg hlarge, if_pos (hbad.resolve_left hlarge)]
      exact ⟨_, rfl⟩
  obtain ⟨text, hframed⟩ := hframed
  refine ⟨text, ?_⟩
  rw [readFrame, Eff.run_gets_bind, hopen, if_neg Bool.false_ne_true, Eff.run_bind_ok hfirst]
  exact Eff.run_bind_error hframed

/-- Behind a header that passes the checks the body is read. -/
lemma readFrame_header_ok (hsize : dataSize header ≤ r.maxTagSize.toNat)
    (hstream : streamId header = 0) :
    readFrame.run r = (do
      let body ← readBody (dataSize header)
      pure (some (frameOf header body)) : FlvReaderM (Option Frame)).run (r.behindHeader rest) := by
  obtain ⟨rawType, fields, rfl⟩ := List.exists_cons_of_length_eq_add_one hlen
  have hfirst : readFirst.run r = (.ok (some rawType), { r with inner := fields ++ rest }) := by
    rw [readFirst]
    simp only [hr, List.cons_append]
  have hread : (readExact 10).run { r with inner := fields ++ rest }
      = (.ok fields, { r with inner := rest }) := run_readExact rfl (Nat.succ_inj.mp hlen)
  have hdata : Bytes.ofBe (fields.take 3) = dataSize (rawType :: fields) := rfl
  have hid : Bytes.ofBe (fields.drop 7) = streamId (rawType :: fields) := rfl
  -- both limits are met, so all that is left is the body
  have hframed : (readFramed rawType).run { r with inner := fields ++ rest } = (do
      let body ← readBody (dataSize (rawType :: fields))
      pure (frameOf (rawType :: fields) body) : FlvReaderM Frame).run (r.behindHeader rest) := by
    rw [readFramed, Eff.run_bind_ok hread, run_count_bind, Eff.run_gets_bind]
    simp only [hdata, hid]
    rw [if_neg (Nat.not_lt.mpr hsize), if_neg (not_not_intro hstream)]
    rfl
  rw [readFrame, Eff.run_gets_bind, hopen, if_neg Bool.false_ne_true, Eff.run_bind_ok hfirst]
  dsimp only
  rw [Eff.run_bind, hframed, Eff.run_bind, Eff.run_bind]
  rcases (readBody (dataSize (rawType :: fields))).run (r.behindHeader rest) with ⟨e | body, r'⟩
  · rfl
  · rfl

end Header

lemma run_readExact_short {n : ℕ} (hr : r.inner.length < n) :
    (readExact n).run r = (.error .unexpectedEof, { r with inner := [] }) :=
  Eff.run_zoom (readExactEof_short hr)

/-- A body with a wrong size behind it. -/
lemma readBody_mismatch {body prev : List UInt8} (hr : r.inner = body ++ (prev ++ rest))
    (hlen : prev.length = 4) (hprev : Bytes.ofBe prev ≠ 11 + body.length) :
    ∃ text r', (readBody body.length).run r = (.error (.other text), r') ∧ r'.inner = rest ∧
      r'.exhausted = r.exhausted ∧ r'.maxTagSize = r.maxTagSize := by
  have hback : (readExact 4).run
      { r with inner := prev ++ rest, bytesRead := r.bytesRead + UInt64.ofNat body.length }
        = (.ok prev,
          { r with inner := rest, bytesRead := r.bytesRead + UInt64.ofNat body.length }) :=
    run_readExact rfl hlen
  rw [readBody, Eff.run_bind_ok (run_readExact hr rfl), run_count_bind, Eff.run_bind_ok hback,
    if_pos hprev]
  exact ⟨_, _, rfl, rfl, rfl, rfl⟩

/-- A body that is not all there, or not the size behind it. -/
lemma readBody_short {n : ℕ} (hr : r.inner.length < n + 4) :
    ∃ r', (readBody n).run r = (.error .unexpectedEof, r') ∧ r'.inner = [] ∧
      r'.exhausted = r.exhausted ∧ r'.maxTagSize = r.maxTagSize := by
  by_cases hbody : r.inner.length < n
  · exact ⟨_, Eff.run_bind_error (run_readExact_short hbody), rfl, rfl, rfl⟩
  · have htake : (readExact n).run r = (.ok (r.inner.take n), { r with inner := r.inner.drop n }) :=
      run_readExact (List.take_append_drop n r.inner).symm
        (List.length_take_of_le (Nat.not_lt.mp hbody))
    have hshort : (readExact 4).run
        { r with inner := r.inner.drop n, bytesRead := r.bytesRead + UInt64.ofNat n }
          = (.error .unexpectedEof,
            { r with inner := [], bytesRead := r.bytesRead + UInt64.ofNat n }) := by
      refine run_readExact_short ?_
      simp only [List.length_drop]
      omega
    rw [readBody, Eff.run_bind_ok htake, run_count_bind, Eff.run_bind_error hshort]
    exact ⟨_, rfl, rfl, rfl, rfl⟩

/-! ### A reader at each front -/

/-- A whole frame is read. -/
lemma readFrame_raw {f : RawFrame r.maxTagSize} (hr : r.inner = f.bytes ++ rest)
    (hopen : r.exhausted = false) :
    ∃ r', readFrame.run r = (.ok (some (frameOf f.header f.body)), r') ∧ Moves r r' rest := by
  rw [RawFrame.bytes, List.append_assoc, List.append_assoc] at hr
  have hback : Bytes.ofBe f.prev = 11 + f.body.length := by rw [f.length_body, f.prev_eq]
  have hbody := run_readBody (r := r.behindHeader (f.body ++ (f.prev ++ rest))) rfl f.length_prev hback
  rw [f.length_body] at hbody
  rw [readFrame_header_ok hr f.length_header hopen f.dataSize_le f.streamId_eq, Eff.run_bind_ok hbody]
  exact ⟨_, rfl, rfl, hopen, rfl⟩

/-- A check that fails is reported, and the reader goes on behind what the check took. -/
lemma readFrame_corrupt (hr : Corrupt r.maxTagSize r.inner rest) (hopen : r.exhausted = false) :
    ∃ text r', readFrame.run r = (.error (.other text), r') ∧ Moves r r' rest := by
  generalize hinner : r.inner = bytes at hr
  cases hr with
  | dataSize hlen h =>
      obtain ⟨text, hrun⟩ := readFrame_header_error hinner hlen hopen (.inl h)
      exact ⟨text, _, hrun, rfl, hopen, rfl⟩
  | streamId hlen h =>
      obtain ⟨text, hrun⟩ := readFrame_header_error hinner hlen hopen (.inr h)
      exact ⟨text, _, hrun, rfl, hopen, rfl⟩
  | @prev header body prev _ hlen hsize hstream hbody hprev h =>
      rw [← hbody] at h
      obtain ⟨text, r', hrun, hrest, hexhausted, hmax⟩ :=
        readBody_mismatch (r := r.behindHeader (body ++ (prev ++ rest))) rfl hprev h
      rw [hbody] at hrun
      rw [readFrame_header_ok hinner hlen hopen hsize hstream, Eff.run_bind_error hrun]
      exact ⟨text, r', rfl, hrest, hexhausted.trans hopen, hmax⟩

/-- The beginning of a frame is taken off the source. -/
lemma readFrame_torn (hr : Torn r.maxTagSize r.inner) (hopen : r.exhausted = false) :
    ∃ r', readFrame.run r = (.error .unexpectedEof, r') ∧ Moves r r' [] := by
  generalize hinner : r.inner = bytes at hr
  cases hr with
  | header hne hlen =>
      obtain ⟨rawType, fields, rfl⟩ := List.exists_cons_of_ne_nil hne
      have hfirst : readFirst.run r = (.ok (some rawType), { r with inner := fields }) := by
        rw [readFirst]
        simp only [hinner]
      have hshort : (readExact 10).run { r with inner := fields }
          = (.error .unexpectedEof, { r with inner := [] }) :=
        run_readExact_short (Nat.lt_of_succ_lt_succ hlen)
      have hframed : (readFramed rawType).run { r with inner := fields }
          = (.error .unexpectedEof, { r with inner := [] }) := by
        rw [readFramed, Eff.run_bind_error hshort]
      rw [readFrame, Eff.run_gets_bind, hopen, if_neg Bool.false_ne_true, Eff.run_bind_ok hfirst]
      exact ⟨_, Eff.run_bind_error hframed, rfl, hopen, rfl⟩
  | @body header rest hlen hsize hstream h =>
      obtain ⟨r', hrun, hrest, hexhausted, hmax⟩ := readBody_short (r := r.behindHeader rest) h
      rw [readFrame_header_ok hinner hlen hopen hsize hstream, Eff.run_bind_error hrun]
      exact ⟨r', rfl, hrest, hexhausted.trans hopen, hmax⟩

/-- A source that has ended stays so. -/
lemma readFrame_ended (hr : r.inner = []) :
    ∃ r', readFrame.run r = (.ok none, r') ∧ r'.inner = [] ∧ r'.maxTagSize = r.maxTagSize :=
  ⟨_, readFrame_nil hr, hr, rfl⟩

/-- A tag is decoded out of a frame that was read, and the reader is not touched. -/
lemma readTag_snd (r : FlvReader) : (readTag.run r).2 = (readFrame.run r).2 := by
  rw [readTag, Eff.run_bind]
  rcases readFrame.run r with ⟨e | _ | f, r'⟩
  · rfl
  · rfl
  · dsimp only
    cases f.decode <;> rfl

/-- A tag comes out of a frame. -/
lemma exists_frame_of_tag {tag : FlvTag} (h : (readTag.run r).1 = .ok (some tag)) :
    ∃ f, (readFrame.run r).1 = .ok (some f) := by
  rw [readTag, Eff.run_bind] at h
  rcases hrun : readFrame.run r with ⟨e | _ | f, r'⟩
  · rw [hrun] at h
    cases h
  · rw [hrun] at h
    cases h
  · exact ⟨f, rfl⟩

end FlvReader

/-! ### Boundaries -/

/-- `rest` is left of `start` behind any number of frames that pass the checks. -/
inductive Boundary (maxTagSize : UInt32) (start : List UInt8) : List UInt8 → Prop
  | start : Boundary maxTagSize start start
  | frame {rest : List UInt8} (f : RawFrame maxTagSize)
      (h : Boundary maxTagSize start (f.bytes ++ rest)) : Boundary maxTagSize start rest

/-- A reader at the front of bytes. -/
private def probe (maxTagSize : UInt32) (bytes : List UInt8) : FlvReader :=
  ⟨bytes, ⟨false, false⟩, maxTagSize, 0, false, 0⟩

section Boundary

variable {maxTagSize : UInt32} {start bytes p q rest rest' : List UInt8}

/-- A frame ends in one place. -/
lemma RawFrame.rest_eq {f f' : RawFrame maxTagSize} (h : f.bytes ++ rest = f'.bytes ++ rest') :
    rest = rest' := by
  obtain ⟨r₁, hrun₁, hmoves₁⟩ :=
    FlvReader.readFrame_raw (r := probe maxTagSize (f.bytes ++ rest)) (f := f) rfl rfl
  obtain ⟨r₂, hrun₂, hmoves₂⟩ :=
    FlvReader.readFrame_raw (r := probe maxTagSize (f.bytes ++ rest)) (f := f') h rfl
  have hsame : r₁ = r₂ := (Prod.mk.inj (hrun₁.symm.trans hrun₂)).2
  rw [← hmoves₁.inner, hsame, hmoves₂.inner]

/-- A front that fails a check is no frame. -/
lemma Corrupt.not_frame (h : Corrupt maxTagSize bytes rest) (f : RawFrame maxTagSize) :
    bytes ≠ f.bytes ++ rest' := by
  rintro rfl
  obtain ⟨text, r₁, hrun₁, -⟩ :=
    FlvReader.readFrame_corrupt (r := probe maxTagSize (f.bytes ++ rest')) h rfl
  obtain ⟨r₂, hrun₂, -⟩ :=
    FlvReader.readFrame_raw (r := probe maxTagSize (f.bytes ++ rest')) (f := f) rfl rfl
  rw [hrun₁] at hrun₂
  cases hrun₂

lemma Corrupt.length_lt (h : Corrupt maxTagSize bytes rest) : rest.length < bytes.length := by
  cases h <;> simp only [List.length_append] <;> omega

namespace Boundary

lemma trans (hp : Boundary maxTagSize start p) (hq : Boundary maxTagSize p q) :
    Boundary maxTagSize start q := by
  induction hq with
  | start => exact hp
  | frame f _ ih => exact .frame f ih

lemma length_le (h : Boundary maxTagSize p q) : q.length ≤ p.length := by
  induction h with
  | start => exact Nat.le_refl _
  | frame f _ ih =>
      rw [List.length_append] at ih
      omega

/-- A boundary other than the start lies behind the first frame. -/
lemma eq_or_behind (h : Boundary maxTagSize p q) :
    q = p ∨ ∃ (f : RawFrame maxTagSize) (rest : List UInt8), p = f.bytes ++ rest ∧
      Boundary maxTagSize rest q := by
  induction h with
  | start => exact .inl rfl
  | @frame rest f _ ih =>
      rcases ih with rfl | ⟨f', rest', rfl, hrest⟩
      · exact .inr ⟨f, rest, rfl, .start⟩
      · exact .inr ⟨f', rest', rfl, .frame f hrest⟩

/-- Of two boundaries one lies behind the other. -/
lemma total (hp : Boundary maxTagSize start p) (hq : Boundary maxTagSize start q) :
    Boundary maxTagSize p q ∨ Boundary maxTagSize q p := by
  induction hp with
  | start => exact .inl hq
  | frame f _ ih =>
      rcases ih with hbehind | hfront
      · rcases hbehind.eq_or_behind with rfl | ⟨f', rest', hrest, hq⟩
        · exact .inr (.frame f .start)
        · rw [RawFrame.rest_eq hrest]
          exact .inl hq
      · exact .inr (.frame f hfront)

/-- Nothing behind a front that fails a check is a boundary. -/
lemma not_of_corrupt (hp : Boundary maxTagSize start p) (h : Corrupt maxTagSize p rest) :
    ¬ Boundary maxTagSize start rest := by
  intro hrest
  rcases hp.total hrest with hbehind | hfront
  · rcases hbehind.eq_or_behind with rfl | ⟨f, rest', hframe, -⟩
    · exact absurd h.length_lt (lt_irrefl _)
    · exact h.not_frame f hframe
  · exact absurd h.length_lt (Nat.not_lt.mpr hfront.length_le)

end Boundary

end Boundary

/-! ### Calls in a row -/

namespace FlvReader

/-- The reader after `n` calls of `read_tag`, whatever they returned. -/
def afterCalls : ℕ → FlvReader → FlvReader
  | 0, r => r
  | n + 1, r => (readTag.run (afterCalls n r)).2

/-- The call found that a frame fails a check, and said so. -/
def Reports (r : FlvReader) : Prop := ∃ text, (readFrame.run r).1 = .error (.other text)

/-- Of `n` calls, each that finds a byte looks for a tag at a boundary, and none returns a tag once a
frame that fails a check was reported. -/
def NeverPast (r : FlvReader) (n : ℕ) : Prop :=
  ∀ i < n, ((r.afterCalls i).exhausted = false → (r.afterCalls i).inner ≠ [] →
      Boundary r.maxTagSize r.inner (r.afterCalls i).inner) ∧
    ∀ tag, (readTag.run (r.afterCalls i)).1 = .ok (some tag) →
      Boundary r.maxTagSize r.inner (r.afterCalls i).inner ∧ ∀ j < i, ¬ (r.afterCalls j).Reports

/-- Of `n` calls, none comes behind one that stood at a frame that fails a check, unless no byte is
left there. -/
def Stops (r : FlvReader) (n : ℕ) : Prop :=
  ∀ i, i + 1 < n → ∀ rest, Corrupt r.maxTagSize (r.afterCalls i).inner rest → rest = []

variable {r : FlvReader} {n : ℕ}

lemma readTag_of_readFrame {r' : FlvReader} {a : Except Error (Option Frame)}
    (h : readFrame.run r = (a, r')) : (readTag.run r).2 = r' := by
  rw [readTag_snd, h]

/-- What one call does to a reader that has not ended: it stops for good, goes on behind a frame, or
goes on behind what a failed check took. -/
lemma readTag_step (hopen : r.exhausted = false) :
    (readTag.run r).2.maxTagSize = r.maxTagSize ∧
      ((readTag.run r).2.inner = [] ∨ (readTag.run r).2.exhausted = false ∧
        ((∃ f : RawFrame r.maxTagSize, r.inner = f.bytes ++ (readTag.run r).2.inner) ∧ ¬ r.Reports ∨
          Corrupt r.maxTagSize r.inner (readTag.run r).2.inner)) := by
  by_cases hne : r.inner = []
  · obtain ⟨r', hrun, hinner, hmax⟩ := readFrame_ended hne
    rw [readTag_of_readFrame hrun]
    exact ⟨hmax, .inl hinner⟩
  · rcases front_cases r.maxTagSize hne with ⟨f, rest, hfront⟩ | ⟨rest, hfront⟩ | hfront
    · obtain ⟨r', hrun, hmoves⟩ := readFrame_raw hfront hopen
      rw [readTag_of_readFrame hrun, hmoves.inner]
      refine ⟨hmoves.maxTagSize, .inr ⟨hmoves.exhausted, .inl ⟨⟨f, hfront⟩, ?_⟩⟩⟩
      rintro ⟨text, hreport⟩
      rw [hrun] at hreport
      cases hreport
    · obtain ⟨text, r', hrun, hmoves⟩ := readFrame_corrupt hfront hopen
      rw [readTag_of_readFrame hrun, hmoves.inner]
      exact ⟨hmoves.maxTagSize, .inr ⟨hmoves.exhausted, .inr hfront⟩⟩
    · obtain ⟨r', hrun, hmoves⟩ := readFrame_torn hfront hopen
      rw [readTag_of_readFrame hrun]
      exact ⟨hmoves.maxTagSize, .inl hmoves.inner⟩

/-- A source that has ended gives no tag. -/
lemma readTag_ended (hr : r.inner = []) : (readTag.run r).2.inner = [] ∧
    (readTag.run r).2.maxTagSize = r.maxTagSize ∧ ∀ tag, (readTag.run r).1 ≠ .ok (some tag) := by
  obtain ⟨r', hrun, hinner, hmax⟩ := readFrame_ended hr
  rw [readTag_of_readFrame hrun]
  refine ⟨hinner, hmax, fun tag htag => ?_⟩
  obtain ⟨f, hf⟩ := exists_frame_of_tag htag
  rw [hrun] at hf
  cases hf

/-- The run lemma: as long as no call comes behind a failed check, the reader has ended, or stands at
a boundary with nothing reported. -/
lemma Stops.inv (hstops : r.Stops n) (hopen : r.exhausted = false) {i : ℕ} (hi : i < n) :
    (r.afterCalls i).maxTagSize = r.maxTagSize ∧
      ((r.afterCalls i).inner = [] ∨ (r.afterCalls i).exhausted = false ∧
        Boundary r.maxTagSize r.inner (r.afterCalls i).inner ∧
        ∀ j < i, ¬ (r.afterCalls j).Reports) := by
  induction i with
  | zero => exact ⟨rfl, .inr ⟨hopen, .start, fun j hj => absurd hj (Nat.not_lt_zero j)⟩⟩
  | succ i ih =>
      obtain ⟨hmax, hended | ⟨hopen, hboundary, hsilent⟩⟩ := ih (Nat.lt_of_succ_lt hi)
      · obtain ⟨hinner, hmax', -⟩ := readTag_ended hended
        exact ⟨hmax'.trans hmax, .inl hinner⟩
      · obtain ⟨hmax', hstep⟩ := readTag_step hopen
        refine ⟨hmax'.trans hmax, ?_⟩
        rw [hmax] at hstep
        rcases hstep with hended | ⟨hopen', ⟨⟨f, hf⟩, hreport⟩ | hcorrupt⟩
        · exact .inl hended
        · rw [hf] at hboundary
          refine .inr ⟨hopen', .frame f hboundary, fun j hj => ?_⟩
          rcases Nat.lt_succ_iff_lt_or_eq.mp hj with hlt | rfl
          · exact hsilent j hlt
          · exact hreport
        · exact .inl (hstops i hi _ hcorrupt)

/-- A reader that was just opened has not ended. -/
lemma exhausted_withMaxTagSize {bytes : List UInt8} {maxTagSize : UInt32}
    (h : withMaxTagSize bytes maxTagSize = .ok r) : r.exhausted = false := by
  have hrun : (readFlvHeader maxTagSize).run bytes = (.ok r, _) := Prod.ext h rfl
  obtain ⟨header, s₁, -, hrun⟩ := Eff.run_bind_eq_ok.mp hrun
  split_ifs at hrun
  · cases hrun
  · cases hrun
  dsimp only at hrun
  split_ifs at hrun
  · cases hrun
  obtain ⟨_, s₂, -, hrun⟩ := Eff.run_bind_eq_ok.mp hrun
  obtain ⟨p0, s₃, -, hrun⟩ := Eff.run_bind_eq_ok.mp hrun
  split_ifs at hrun
  · cases hrun
  · cases hrun
    rfl

/-- A reader that says it has ended has. -/
lemma afterCalls_inv (hopen : r.exhausted = false) (i : ℕ) :
    (r.afterCalls i).maxTagSize = r.maxTagSize ∧
      ((r.afterCalls i).inner = [] ∨ (r.afterCalls i).exhausted = false) := by
  induction i with
  | zero => exact ⟨rfl, .inr hopen⟩
  | succ i ih =>
      obtain ⟨hmax, hended | hopen⟩ := ih
      · obtain ⟨hinner, hmax', -⟩ := readTag_ended hended
        exact ⟨hmax'.trans hmax, .inl hinner⟩
      · obtain ⟨hmax', hended | ⟨hopen', -⟩⟩ := readTag_step hopen
        · exact ⟨hmax'.trans hmax, .inl hended⟩
        · exact ⟨hmax'.trans hmax, .inr hopen'⟩

/-- **Recovery**: of any number of calls on a stream, each looks for a tag at a boundary, and none
returns a tag once a failed check was reported, if and only if no call comes behind a frame that
failed a check with bytes left there. -/
theorem neverPast_iff_stops {bytes : List UInt8} {maxTagSize : UInt32}
    (h : withMaxTagSize bytes maxTagSize = .ok r) (n : ℕ) : r.NeverPast n ↔ r.Stops n := by
  have hopen := exhausted_withMaxTagSize h
  constructor
  · intro hnever i hi rest hcorrupt
    by_contra hrest
    have hne : (r.afterCalls i).inner ≠ [] := by
      intro hnil
      have hlt := hcorrupt.length_lt
      rw [hnil] at hlt
      exact Nat.not_lt_zero _ hlt
    obtain ⟨hmax, hended | hopen'⟩ := afterCalls_inv hopen i
    · exact hne hended
    · have hboundary := (hnever i (Nat.lt_of_succ_lt hi)).1 hopen' hne
      obtain ⟨text, r', hrun, hmoves⟩ :=
        readFrame_corrupt (r := r.afterCalls i) (hmax.symm ▸ hcorrupt) hopen'
      have hnext : r.afterCalls (i + 1) = r' := readTag_of_readFrame hrun
      have hbehind := (hnever (i + 1) hi).1
      rw [hnext, hmoves.inner] at hbehind
      exact hboundary.not_of_corrupt hcorrupt (hbehind hmoves.exhausted hrest)
  · intro hstops i hi
    obtain ⟨-, hended | ⟨hopen, hboundary, hsilent⟩⟩ := hstops.inv hopen hi
    · refine ⟨fun _ hne => absurd hended hne, fun tag htag => ?_⟩
      exact absurd htag ((readTag_ended hended).2.2 tag)
    · exact ⟨fun _ _ => hboundary, fun tag _ => ⟨hboundary, hsilent⟩⟩

/-- A whole frame, and the size of the tag that is around it. -/
def nestedBody : List UInt8 :=
  [5, 0, 0, 0, 0, 0, 0, 0, 0, 0, 0] ++ ([0, 0, 0, 11] ++ [0, 0, 0, 26])

/-- A tag with a stream id, and a whole frame as its body. -/
def nested : List UInt8 := [5, 0, 0, 15, 0, 0, 0, 0, 0, 0, 1] ++ nestedBody

/-- A reader in front of the tag. -/
def nestedReader : FlvReader :=
  ⟨nested, ⟨true, true⟩, min defaultMaxTagSize ui24Max, 0, false,
    (FlvWriter.new ⟨true, true⟩).bytesWritten⟩

lemma withMaxTagSize_nested :
    withMaxTagSize ((FlvWriter.new ⟨true, true⟩).inner ++ nested) defaultMaxTagSize
      = .ok nestedReader :=
  withMaxTagSize_new

/-- One call on the stream comes behind no other; of three, the second comes behind the failed check. -/
theorem neverPast_iff_stops_nested : nestedReader.NeverPast 1 ∧ ¬ nestedReader.NeverPast 3 := by
  have hcorrupt : Corrupt nestedReader.maxTagSize nestedReader.inner nestedBody :=
    .streamId rfl (by decide)
  constructor
  · rw [neverPast_iff_stops withMaxTagSize_nested 1]
    exact fun i hi => absurd hi (by omega)
  · rw [neverPast_iff_stops withMaxTagSize_nested 3]
    exact fun hstops => List.cons_ne_nil _ _ (hstops 0 (by decide) nestedBody hcorrupt)

/-- The second call on the stream looks for a tag in the body. -/
theorem not_neverPast :
    ¬ ∀ (bytes : List UInt8) (maxTagSize : UInt32) (r : FlvReader) (n : ℕ),
      withMaxTagSize bytes maxTagSize = .ok r → r.NeverPast n := by
  intro h
  have hcorrupt : Corrupt nestedReader.maxTagSize nestedReader.inner nestedBody :=
    .streamId rfl (by decide)
  have hsecond := (h _ _ nestedReader 2 withMaxTagSize_nested 1 (by decide)).1
  obtain ⟨text, r', hrun, hmoves⟩ := readFrame_corrupt hcorrupt rfl
  have hnext : nestedReader.afterCalls 1 = r' := readTag_of_readFrame hrun
  rw [hnext, hmoves.inner] at hsecond
  exact Boundary.start.not_of_corrupt hcorrupt (hsecond hmoves.exhausted (List.cons_ne_nil _ _))

end FlvReader

end Rtmp.Flv
