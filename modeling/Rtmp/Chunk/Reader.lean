import Rtmp.Chunk.Message
import Rtmp.Lib.Bytes
import Rtmp.Lib.Eff

/-!
The chunk stream reader: chunks come off the wire in any interleaving of chunk streams and are
coalesced back into whole messages.

`ChunkReader.readChunk` is one round of the loop of `read_message`: a basic header, a message
header of one of the four formats, and at most one chunk size of payload.
`ChunkReader.readMessage` repeats it until a message is complete.  Every update of the reader
survives a failed read, as the source's does.
-/

namespace Rtmp

/-- What the reader keeps for one chunk stream id. -/
structure InState where
  msgTypeId : UInt8 := 0
  msgStreamId : UInt32 := 0
  msgLength : UInt32 := 0
  timestamp : UInt32 := 0
  lastDelta : UInt32 := 0
  /-- Whether the last fmt 0/1/2 chunk used an extended timestamp. -/
  lastHadExtTs : Bool := false
  /-- Payload received so far of a message still arriving. -/
  partialPayload : List UInt8 := []
  deriving DecidableEq, Repr

/-- The reading side of a chunk stream. -/
structure ChunkReader where
  stream : List ReadEvent
  chunkSize : ChunkSize := .default
  states : UInt32 → Option InState := fun _ => none
  /-- Bytes consumed off the wire, modulo `2^32`. -/
  receivedBytes : UInt32 := 0
  /-- The acknowledgement window the peer asked for; `0` if none. -/
  windowAckSize : UInt32 := 0
  lastAckBytes : UInt32 := 0

/-- A fallible operation of the reader. -/
abbrev ReaderM := Eff Error ChunkReader

namespace ChunkReader

/-- A fresh reader on a byte source. -/
def new (stream : List ReadEvent) : ChunkReader := { stream }

/-- The reader after `n` more bytes were taken and `rest` is left of the source. -/
def advance (n : ℕ) (rest : List ReadEvent) (r : ChunkReader) : ChunkReader :=
  { r with stream := rest, receivedBytes := r.receivedBytes + UInt32.ofNat n }

/-- The reader with one chunk stream's state replaced. -/
def setState (csid : UInt32) (st : InState) (r : ChunkReader) : ChunkReader :=
  { r with states := Function.update r.states csid (some st) }

/-- Override the current chunk size. -/
def setChunkSize (size : ℕ) (r : ChunkReader) : ChunkReader :=
  { r with chunkSize := .clamp size }

/-- Record the peer's acknowledgement window and restart the count. -/
def setWindowAckSize (size : UInt32) (r : ChunkReader) : ChunkReader :=
  { r with windowAckSize := size, lastAckBytes := r.receivedBytes }

/-- The acknowledgement sequence number that is due, if any, marking it as sent. -/
def ackDue (r : ChunkReader) : Option UInt32 × ChunkReader :=
  if r.windowAckSize = 0 then (none, r)
  else if r.receivedBytes - r.lastAckBytes ≥ r.windowAckSize then
    (some r.receivedBytes, { r with lastAckBytes := r.receivedBytes })
  else (none, r)

/-- Discard the message a chunk stream is in the middle of, if any. -/
def abortPartial (csid : UInt32) (r : ChunkReader) : Bool × ChunkReader :=
  match r.states csid with
  | some st =>
      if st.partialPayload ≠ [] then (true, r.setState csid { st with partialPayload := [] })
      else (false, r)
  | none => (false, r)

/-! ### Reading the wire -/

/-- Read exactly `n` bytes, charging them to the sequence counter. -/
def readExactCounted (n : ℕ) : ReaderM (List UInt8) where
  run r :=
    match readExact n r.stream with
    | (.ok bs, rest) => (.ok bs, r.advance n rest)
    | (.error kind, rest) => (.error (.io kind), { r with stream := rest })

lemma run_readExactCounted (n : ℕ) (r : ChunkReader) :
    (readExactCounted n).run r = match readExact n r.stream with
      | (.ok bs, rest) => (.ok bs, r.advance n rest)
      | (.error kind, rest) => (.error (.io kind), { r with stream := rest }) := rfl

/-- The chunk stream id whose six low bits are `low`: they are the id itself, or announce that one
or two more bytes carry it. -/
def readCsid (low : UInt8) : ReaderM UInt32 :=
  if low = 0 then do
    let b1 ← readExactCounted 1
    pure ((b1.getD 0 0).toUInt32 + 64)
  else if low = 1 then do
    let b2 ← readExactCounted 2
    pure ((b2.getD 0 0).toUInt32 + (b2.getD 1 0).toUInt32 * 256 + 64)
  else
    pure low.toUInt32

/-- The fmt and chunk stream id that open every chunk. -/
def readBasicHeader : ReaderM (UInt32 × UInt8) := do
  let b ← readExactCounted 1
  let fmt := (b.getD 0 0 >>> 6) &&& 0x03
  let low := b.getD 0 0 &&& 0x3F
  let csid ← readCsid low
  pure (csid, fmt)

/-- A 24-bit big-endian field. -/
def readU24Be : ReaderM UInt32 := do
  let b ← readExactCounted 3
  pure (((b.getD 0 0).toUInt32 <<< 16) ||| ((b.getD 1 0).toUInt32 <<< 8) ||| (b.getD 2 0).toUInt32)

/-- The message stream id, the one little-endian field of the format. -/
def readU32LeStreamId : ReaderM UInt32 := do
  let b ← readExactCounted 4
  pure (UInt32.ofNat (Bytes.ofLe b))

/-- A 32-bit big-endian field. -/
def readU32Be : ReaderM UInt32 := do
  let b ← readExactCounted 4
  pure (UInt32.ofNat (Bytes.ofBe b))

/-- A single byte. -/
def readType : ReaderM UInt8 := do
  let t ← readExactCounted 1
  pure (t.getD 0 0)

/-- The 24-bit timestamp field `field` and its extension: whether the field is the marker
`0xFFFFFF`, and the 32-bit value, which the four extension bytes carry in that case. -/
def readExtended (field : UInt32) : ReaderM (UInt32 × Bool) := do
  let hadExtTs := field = 0x00FFFFFF
  if hadExtTs then
    let ts ← readU32Be
    pure (ts, true)
  else
    pure (field, false)

/-- A chunk stream's state, or the failure of a header that needs one. -/
def requireState (csid : UInt32) (text : String) : ReaderM InState where
  run r :=
    match r.states csid with
    | some st => (.ok st, r)
    | none => (.error (.invalidChunk text), r)

lemma run_requireState (csid : UInt32) (text : String) (r : ChunkReader) :
    (requireState csid text).run r = match r.states csid with
      | some st => (.ok st, r)
      | none => (.error (.invalidChunk text), r) := rfl

/-- fmt 0: the full header, which also wipes a half-received message. -/
def readFmt0Header (csid : UInt32) : ReaderM Unit := do
  let ts ← readU24Be
  let len ← readU24Be
  let ty ← readType
  let streamId ← readU32LeStreamId
  let (ts, hadExtTs) ← readExtended ts
  let st ← Eff.gets fun r => (r.states csid).getD {}
  Eff.modify (setState csid { st with
    partialPayload := []
    msgTypeId := ty
    msgStreamId := streamId
    msgLength := len
    timestamp := ts
    lastDelta := ts
    lastHadExtTs := hadExtTs })

/-- fmt 1: a delta, a length and a type; the message stream id is inherited. -/
def readFmt1Header (csid : UInt32) : ReaderM Unit := do
  let delta ← readU24Be
  let len ← readU24Be
  let ty ← readType
  let (delta, hadExtTs) ← readExtended delta
  let st ← requireState csid "fmt 1 without prior fmt 0"
  Eff.modify (setState csid { st with
    msgTypeId := ty
    msgLength := len
    timestamp := st.timestamp + delta
    lastDelta := delta
    lastHadExtTs := hadExtTs
    partialPayload := [] })

/-- fmt 2: a delta alone. -/
def readFmt2Header (csid : UInt32) : ReaderM Unit := do
  let delta ← readU24Be
  let (delta, hadExtTs) ← readExtended delta
  let st ← requireState csid "fmt 2 without prior fmt 0/1"
  Eff.modify (setState csid { st with
    timestamp := st.timestamp + delta
    lastDelta := delta
    lastHadExtTs := hadExtTs
    partialPayload := [] })

/-- The copy of the extended timestamp in a chunk without a header of its own. -/
def readRepeatedTs (hadExtTs : Bool) : ReaderM Unit :=
  if hadExtTs then do
    let _dup ← readU32Be
    pure ()
  else
    pure ()

/-- fmt 3: no header, but the extended timestamp is repeated if the last header had one.  On an
empty payload buffer it opens a new message, one registered delta later. -/
def readFmt3Header (csid : UInt32) : ReaderM Unit := do
  let st ← requireState csid "fmt 3 without prior fmt 0/1/2"
  readRepeatedTs st.lastHadExtTs
  if st.partialPayload = [] then
    Eff.modify (setState csid { st with timestamp := st.timestamp + st.lastDelta })
  else
    pure ()

/-- The message header of a chunk of format `fmt`; the format is two bits wide. -/
def readMessageHeader (fmt : UInt8) (csid : UInt32) : ReaderM Unit :=
  if fmt = 0 then readFmt0Header csid
  else if fmt = 1 then readFmt1Header csid
  else if fmt = 2 then readFmt2Header csid
  else readFmt3Header csid

/-- The payload that follows a message header: at most one chunk size of what the message still
lacks, and the message itself once it is whole. -/
def readPayload (csid : UInt32) (fmt : UInt8) : ReaderM (Option Message) := do
  let st ← requireState csid s!"fmt {fmt} chunk on csid {csid} without prior fmt-0 state"
  let need := st.msgLength.toNat - st.partialPayload.length
  let size ← Eff.gets fun r => r.chunkSize.val
  let take := min need size
  let buf ← readExactCounted take
  let payload := st.partialPayload ++ buf
  if UInt32.ofNat payload.length ≥ st.msgLength then
    Eff.modify (setState csid { st with partialPayload := [] })
    pure (some
      { msgTypeId := st.msgTypeId
        msgStreamId := st.msgStreamId
        timestamp := st.timestamp
        payload := payload })
  else
    Eff.modify (setState csid { st with partialPayload := payload })
    pure none

/-- One round of the loop of `read_message`: a whole chunk, and the message it completes. -/
def readChunk : ReaderM (Option Message) := do
  let (csid, fmt) ← readBasicHeader
  readMessageHeader fmt csid
  readPayload csid fmt

/-- The loop of `read_message`, for at most `rounds` chunks. -/
def readChunks : ℕ → ReaderM Message
  | 0 => Eff.fail (.io .unexpectedEof)
  | rounds + 1 => do
      match ← readChunk with
      | some msg => pure msg
      | none => readChunks rounds

/-- Read chunks off the wire until one message is complete.  Each chunk takes at least one event
off the source, so the rounds allowed here are never used up (`readChunks_rounds`). -/
def readMessage : ReaderM Message where
  run r := (readChunks (r.stream.length + 1)).run r

/-! ### The reader's own updates -/

section Updates

variable {r : ChunkReader} {n m : ℕ} {es fs : List ReadEvent} {k j : UInt32} {st st' : InState}

@[simp] lemma stream_advance : (r.advance n es).stream = es := rfl

@[simp] lemma chunkSize_advance : (r.advance n es).chunkSize = r.chunkSize := rfl

@[simp] lemma states_advance : (r.advance n es).states = r.states := rfl

@[simp] lemma stream_setState : (r.setState k st).stream = r.stream := rfl

@[simp] lemma chunkSize_setState : (r.setState k st).chunkSize = r.chunkSize := rfl

@[simp] lemma states_setState_self : (r.setState k st).states k = some st := by
  simp [setState]

lemma states_setState_ne (h : j ≠ k) : (r.setState k st).states j = r.states j := by
  simp [setState, Function.update_of_ne h]

@[simp] lemma setState_advance : (r.advance n es).setState k st = (r.setState k st).advance n es :=
  rfl

@[simp] lemma setState_setState : (r.setState k st).setState k st' = r.setState k st' := by
  simp [setState]

@[simp] lemma advance_advance : (r.advance n es).advance m fs = r.advance (n + m) fs := by
  simp [advance, UInt32.add_assoc, UInt32.ofNat_add]

@[simp] lemma advance_zero : r.advance 0 r.stream = r := by
  simp [advance]

/-- Writing back the state that is there changes nothing. -/
lemma setState_eq_self (h : r.states k = some st) : r.setState k st = r := by
  rw [setState, ← h, Function.update_eq_self]

end Updates

/-! ### Reading bytes that are there -/

section Fields

variable {r : ChunkReader} {es : List ReadEvent}

lemma readExactCounted_bytes (bs : List UInt8) {n : ℕ} (hn : bs.length = n)
    (h : r.stream = ReadEvent.bytes bs ++ es) :
    (readExactCounted n).run r = (.ok bs, r.advance n es) := by
  subst hn
  rw [run_readExactCounted, h, readExact_bytes]

/-- A counted read that succeeded took exactly its bytes. -/
lemma readExactCounted_eq_ok {n : ℕ} {r' : ChunkReader} {bs : List UInt8}
    (h : (readExactCounted n).run r = (.ok bs, r')) :
    bs.length = n ∧ r.stream = ReadEvent.bytes bs ++ r'.stream ∧ r' = r.advance n r'.stream := by
  rw [run_readExactCounted] at h
  rcases hr : readExact n r.stream with ⟨_ | cs, rest⟩ <;> rw [hr] at h
  · simp at h
  · simp only [Prod.mk.injEq, Except.ok.injEq] at h
    obtain ⟨rfl, rfl⟩ := h
    obtain ⟨hlen, hstream⟩ := readExact_eq_ok hr
    exact ⟨hlen, hstream, rfl⟩

lemma readU24Be_bytes {v : ℕ} (hv : v < 2 ^ 24)
    (h : r.stream = ReadEvent.bytes (Bytes.toBe 3 v) ++ es) :
    readU24Be.run r = (.ok (UInt32.ofNat v), r.advance 3 es) := by
  have hval : ∀ a b c : UInt8, Bytes.toBe 3 v = [a, b, c] →
      ((a.toUInt32 <<< 16) ||| (b.toUInt32 <<< 8) ||| c.toUInt32) = UInt32.ofNat v := by
    intro a b c habc
    apply UInt32.toNat_inj.mp
    rw [Bytes.u24_shift_or, ← habc, Bytes.ofBe_toBe (by omega), UInt32.toNat_ofNat']
    omega
  rw [readU24Be, Eff.run_bind_ok (readExactCounted_bytes _ (Bytes.length_toBe 3 v) h), Eff.run_pure]
  exact congrArg (fun w => (Except.ok w, r.advance 3 es)) (hval _ _ _ rfl)

lemma readU32Be_bytes {v : UInt32}
    (h : r.stream = ReadEvent.bytes (Bytes.toBe 4 v.toNat) ++ es) :
    readU32Be.run r = (.ok v, r.advance 4 es) := by
  rw [readU32Be, Eff.run_bind_ok (readExactCounted_bytes _ (Bytes.length_toBe 4 _) h),
    Bytes.ofBe_toBe v.toNat_lt]
  simp

lemma readU32LeStreamId_bytes {v : UInt32}
    (h : r.stream = ReadEvent.bytes (Bytes.toLe 4 v.toNat) ++ es) :
    readU32LeStreamId.run r = (.ok v, r.advance 4 es) := by
  rw [readU32LeStreamId, Eff.run_bind_ok (readExactCounted_bytes _ (Bytes.length_toLe 4 _) h),
    Bytes.ofLe_toLe v.toNat_lt]
  simp

lemma readType_bytes {t : UInt8} (h : r.stream = .byte t :: es) :
    readType.run r = (.ok t, r.advance 1 es) := by
  rw [readType, Eff.run_bind_ok (readExactCounted_bytes [t] (n := 1) rfl h)]
  rfl

lemma requireState_some {k : UInt32} {st : InState} {text : String} (h : r.states k = some st) :
    (requireState k text).run r = (.ok st, r) := by
  rw [run_requireState, h]

end Fields

end ChunkReader

end Rtmp
