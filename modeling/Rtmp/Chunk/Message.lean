import Rtmp.Error

/-!
The message type that chunk streams carry, the byte source a reader pulls from, and the chunk size
both directions negotiate.
-/

namespace Rtmp

/-- The chunk size in force until a side sends a `SetChunkSize` message. -/
def defaultChunkSize : ℕ := 128

/-- The largest value the `SetChunkSize` field can carry. -/
def maxChunkSize : ℕ := 0x00FFFFFF

/-- One reassembled RTMP message, after chunk-header removal. -/
structure Message where
  msgTypeId : UInt8
  msgStreamId : UInt32
  timestamp : UInt32
  payload : List UInt8
  deriving DecidableEq, Repr

/-- A chunk size in force: the setters clamp to this range, so no other value is ever stored. -/
structure ChunkSize where
  val : ℕ
  one_le : 1 ≤ val
  le_max : val ≤ maxChunkSize
  deriving DecidableEq

namespace ChunkSize

/-- The clamp of `set_chunk_size`. -/
def clamp (size : ℕ) : ChunkSize where
  val := max 1 (min size maxChunkSize)
  one_le := le_max_left _ _
  le_max := max_le (by decide) (min_le_right _ _)

/-- The size every connection starts with. -/
def default : ChunkSize := ⟨defaultChunkSize, by decide, by decide⟩

@[simp] lemma clamp_val (size : ℕ) : (clamp size).val = max 1 (min size maxChunkSize) := rfl

/-- A positive size is stored up to the legal maximum. -/
lemma clamp_val_of_pos {size : ℕ} (h : 1 ≤ size) : (clamp size).val = min size maxChunkSize := by
  rw [clamp_val, max_eq_right (le_min h (by decide))]

/-- A size in force is its own clamp. -/
lemma clamp_val_self (c : ChunkSize) : clamp c.val = c := by
  rcases c with ⟨c, hlo, hhi⟩
  have hval : (clamp c).val = c := by
    rw [clamp_val, min_eq_left hhi, max_eq_right hlo]
  rcases hclamp : clamp c with ⟨d, _, _⟩
  rw [hclamp] at hval
  subst hval
  rfl

end ChunkSize

/-! ### The byte source -/

/-- What the next one-byte read on a socket yields: a byte, or a failure after which the socket
can be read again. -/
inductive ReadEvent where
  | byte (b : UInt8)
  | fail (kind : IoErrorKind)
  deriving DecidableEq, Repr

/-- An uninterrupted run of bytes as read events. -/
def ReadEvent.bytes (bs : List UInt8) : List ReadEvent := bs.map .byte

@[simp] lemma ReadEvent.bytes_nil : ReadEvent.bytes [] = [] := rfl

@[simp] lemma ReadEvent.bytes_cons (b : UInt8) (bs : List UInt8) :
    ReadEvent.bytes (b :: bs) = .byte b :: ReadEvent.bytes bs := rfl

@[simp] lemma ReadEvent.bytes_append (bs cs : List UInt8) :
    ReadEvent.bytes (bs ++ cs) = ReadEvent.bytes bs ++ ReadEvent.bytes cs :=
  List.map_append

@[simp] lemma ReadEvent.length_bytes (bs : List UInt8) :
    (ReadEvent.bytes bs).length = bs.length :=
  List.length_map _

/-- Read exactly `n` bytes.  A failure, or the end of the stream, gives up with whatever was
already consumed lost; reading no bytes never touches the source. -/
def readExact : ℕ → List ReadEvent → Except IoErrorKind (List UInt8) × List ReadEvent
  | 0, es => (.ok [], es)
  | _ + 1, [] => (.error .unexpectedEof, [])
  | _ + 1, .fail kind :: es => (.error kind, es)
  | n + 1, .byte b :: es =>
      match readExact n es with
      | (.ok bs, rest) => (.ok (b :: bs), rest)
      | (.error kind, rest) => (.error kind, rest)

@[simp] lemma readExact_zero (es : List ReadEvent) : readExact 0 es = (.ok [], es) := by
  cases es <;> rfl

/-- Bytes that are there are read. -/
lemma readExact_bytes (bs : List UInt8) (es : List ReadEvent) :
    readExact bs.length (ReadEvent.bytes bs ++ es) = (.ok bs, es) := by
  induction bs with
  | nil => simp
  | cons b bs ih => simp [readExact, ih]

/-- A read that succeeded took exactly its bytes off the front. -/
lemma readExact_eq_ok {n : ℕ} {es rest : List ReadEvent} {bs : List UInt8}
    (h : readExact n es = (.ok bs, rest)) : bs.length = n ∧ es = ReadEvent.bytes bs ++ rest := by
  induction n generalizing es bs with
  | zero =>
      rw [readExact_zero] at h
      simp only [Prod.mk.injEq, Except.ok.injEq] at h
      obtain ⟨rfl, rfl⟩ := h
      simp
  | succ n ih =>
      rcases es with _ | ⟨_ | _, es⟩
      · simp [readExact] at h
      · rename_i b
        rw [readExact] at h
        rcases hr : readExact n es with ⟨_ | cs, rest'⟩ <;> rw [hr] at h <;> simp at h
        obtain ⟨rfl, rfl⟩ := h
        obtain ⟨hlen, hes⟩ := ih hr
        simp [hlen, hes]
      · simp [readExact] at h

/-- A read takes events off the front of the source, whether it succeeds or not. -/
lemma readExact_suffix (n : ℕ) (es : List ReadEvent) : (readExact n es).2 <:+ es := by
  induction n generalizing es with
  | zero => rw [readExact_zero]
  | succ n ih =>
      rcases es with _ | ⟨b | kind, es⟩
      · exact List.suffix_refl _
      · have htail : (readExact (n + 1) (.byte b :: es)).2 = (readExact n es).2 := by
          rw [readExact]
          rcases readExact n es with ⟨_ | cs, rest⟩ <;> rfl
        rw [htail]
        exact (ih es).trans (List.suffix_cons _ _)
      · exact List.suffix_cons _ _

/-- A read that failed, other than at the end of the source, took at least the failure. -/
lemma readExact_stall {n : ℕ} {es rest : List ReadEvent} {kind : IoErrorKind}
    (h : readExact n es = (.error kind, rest)) (hkind : kind ≠ .unexpectedEof) :
    rest.length < es.length := by
  induction n generalizing es with
  | zero =>
      rw [readExact_zero] at h
      cases h
  | succ n ih =>
      rcases es with _ | ⟨b | kind', es⟩
      · simp only [readExact, Prod.mk.injEq, Except.error.injEq] at h
        exact absurd h.1.symm hkind
      · rw [readExact] at h
        rcases hr : readExact n es with ⟨kind' | bs, rest'⟩ <;> rw [hr] at h
        · cases h
          exact (ih hr).trans (Nat.lt_succ_self _)
        · cases h
      · cases h
        exact Nat.lt_succ_self _

end Rtmp
