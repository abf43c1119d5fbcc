import Rtmp.Chunk.Loop

/-!
Reading under a read timeout: the sessions let a read fail with `WouldBlock` or `TimedOut` and call
`read_message` again.

* `polled`: the messages such a loop returns, and `pollMessages_rounds` that it ends;
* `BetweenChunks`: every timeout that is read falls before the first byte of a chunk;
* `polled_betweenChunks` (**safe timeouts**): then nothing is lost, however many there are;
* `polled_midHeader_ne` (**a lost byte**): a timeout inside a chunk does lose, since the bytes a failed
  read had taken are dropped with it.
-/

namespace Rtmp

namespace ChunkReader

/-- Call `read_message` until it fails with something other than a timeout, for at most `rounds`
calls, and collect the messages. -/
def pollMessages : (rounds : ℕ) → ChunkReader → List Message
  | 0, _ => []
  | rounds + 1, r =>
      match readMessage.run r with
      | (.ok msg, r') => msg :: pollMessages rounds r'
      | (.error (.io kind), r') => if kind.isTimeout then pollMessages rounds r' else []
      | (.error _, _) => []

/-- The messages polling returns: every call takes at least one event off the stream. -/
def polled (r : ChunkReader) : List Message := pollMessages (r.stream.length + 1) r

/-- The reader on another stream. -/
def onStream (es : List ReadEvent) (r : ChunkReader) : ChunkReader := { r with stream := es }

@[simp] lemma stream_onStream (es : List ReadEvent) (r : ChunkReader) :
    (r.onStream es).stream = es := rfl

lemma feed_onStream (es fs : List ReadEvent) (r : ChunkReader) :
    (r.onStream es).feed fs = r.onStream (es ++ fs) := rfl

/-- The events without the failures. -/
def uninterrupted (es : List ReadEvent) : List ReadEvent :=
  es.filter fun
    | .byte _ => true
    | .fail _ => false

/-- More calls than there are events make no difference. -/
lemma pollMessages_rounds {n m : ℕ} {r : ChunkReader} (hn : r.stream.length < n)
    (hm : r.stream.length < m) : pollMessages n r = pollMessages m r := by
  induction n generalizing m r with
  | zero => omega
  | succ n ih =>
      obtain ⟨m, rfl⟩ : ∃ k, m = k + 1 := ⟨m - 1, by omega⟩
      rw [pollMessages, pollMessages]
      rcases hr : readMessage.run r with ⟨e | msg, r'⟩
      · cases e with
        | io kind =>
            by_cases hkind : kind.isTimeout
            · have hne : kind ≠ .unexpectedEof := by
                rintro rfl
                exact absurd hkind (by decide)
              have hlt := Streaming.readMessage.stall hr hne
              simp only [if_pos hkind]
              exact ih (by omega) (by omega)
            · simp only [if_neg hkind]
        | _ => rfl
      · have hlt := readMessage_shrinks hr
        exact congrArg (msg :: ·) (ih (by omega) (by omega))

/-- Polling from any round count that suffices. -/
lemma pollMessages_eq_polled {n : ℕ} {r : ChunkReader} (hn : r.stream.length < n) :
    pollMessages n r = polled r :=
  pollMessages_rounds hn (Nat.lt_succ_self _)

/-- A timeout before the first byte of a chunk is skipped. -/
lemma polled_fail {r : ChunkReader} {kind : IoErrorKind} {es : List ReadEvent}
    (hkind : kind.isTimeout) : polled (r.onStream (.fail kind :: es)) = polled (r.onStream es) := by
  have hchunk : readChunk.run (r.onStream (.fail kind :: es))
      = (.error (.io kind), r.onStream es) :=
    Eff.run_bind_error (Eff.run_bind_error rfl)
  rw [polled, pollMessages, readMessage_of_error hchunk]
  simp only [if_pos hkind]
  exact pollMessages_eq_polled (Nat.lt_succ_self _)

/-- A chunk that was read contributes the message it completed. -/
lemma polled_chunk {r r' : ChunkReader} {out : Option Message}
    (h : readChunk.run r = (.ok out, r')) : polled r = out.toList ++ polled r' := by
  have hlt := readChunk_shrinks h
  cases out with
  | some msg =>
      rw [polled, pollMessages, readMessage_of_some h, Option.toList_some, List.singleton_append]
      exact congrArg (msg :: ·) (pollMessages_eq_polled hlt)
  | none =>
      have hskip : pollMessages (r.stream.length + 1) r = pollMessages (r.stream.length + 1) r' := by
        rw [pollMessages, pollMessages, readMessage_of_none h]
      rw [polled, hskip, Option.toList_none, List.nil_append]
      exact pollMessages_eq_polled (by omega)

/-- Every failure that is read is a timeout and falls between two whole chunks.  Nothing is read any
more once a chunk was refused for what its bytes say. -/
inductive BetweenChunks : ChunkReader → List ReadEvent → Prop
  | bytes {r} (bs : List UInt8) : BetweenChunks r (ReadEvent.bytes bs)
  | timeout {r kind es} (hkind : kind.isTimeout) (h : BetweenChunks r es) :
      BetweenChunks r (.fail kind :: es)
  | chunk {r r' bs out es} (hread : readChunk.run (r.onStream (ReadEvent.bytes bs)) = (.ok out, r'))
      (hwhole : r'.stream = []) (h : BetweenChunks r' es) :
      BetweenChunks r (ReadEvent.bytes bs ++ es)
  | refused {r r' bs e es} (hread : readChunk.run (r.onStream (ReadEvent.bytes bs)) = (.error e, r'))
      (hrefused : ∀ kind, e ≠ .io kind) : BetweenChunks r (ReadEvent.bytes bs ++ es)

@[simp] lemma uninterrupted_bytes (bs : List UInt8) :
    uninterrupted (ReadEvent.bytes bs) = ReadEvent.bytes bs := by
  induction bs with
  | nil => rfl
  | cons b bs ih => exact congrArg (.byte b :: ·) ih

@[simp] lemma uninterrupted_append (es fs : List ReadEvent) :
    uninterrupted (es ++ fs) = uninterrupted es ++ uninterrupted fs :=
  List.filter_append _ _

/-- A chunk that was refused ends the polling. -/
lemma polled_refused {r r' : ChunkReader} {e : Error} (h : readChunk.run r = (.error e, r'))
    (he : ∀ kind, e ≠ .io kind) : polled r = [] := by
  rw [polled, pollMessages, readMessage_of_error h]
  cases e with
  | io kind => exact absurd rfl (he kind)
  | _ => rfl

/-- **Safe timeouts**: as long as every timeout that is read falls between two chunks, polling
returns the messages of the uninterrupted stream, from any state of the reader. -/
theorem polled_betweenChunks (r : ChunkReader) (es : List ReadEvent) (h : BetweenChunks r es) :
    polled (r.onStream es) = polled (r.onStream (uninterrupted es)) := by
  induction h with
  | bytes bs => rw [uninterrupted_bytes]
  | timeout hkind _ ih =>
      rw [polled_fail hkind, ih]
      rfl
  | @chunk r r' bs out es hread hwhole _ ih =>
      have hext : ∀ fs, readChunk.run (r.onStream (ReadEvent.bytes bs ++ fs))
          = (.ok out, r'.onStream fs) := by
        intro fs
        have hfeed := Streaming.readChunk.extend hread fs
        rw [feed_onStream] at hfeed
        rw [hfeed, feed, hwhole]
        rfl
      rw [uninterrupted_append, uninterrupted_bytes, polled_chunk (hext _), polled_chunk (hext _),
        ih]
  | @refused r r' bs e es hread hrefused =>
      -- what follows the refused chunk is not looked at, with its failures or without
      have hext : ∀ fs, polled (r.onStream (ReadEvent.bytes bs ++ fs)) = [] := by
        intro fs
        have hfeed := Streaming.readChunk.refuse hread hrefused fs
        rw [feed_onStream] at hfeed
        exact polled_refused hfeed hrefused
      rw [uninterrupted_append, uninterrupted_bytes, hext, hext]

/-- Polling on a message whose two chunks are 13 and 3 bytes long, with a timeout between them. -/
theorem polled_betweenChunks_two_chunks :
    polled (((new []).setChunkSize 1).onStream
        (ReadEvent.bytes [0x03, 0, 0, 5, 0, 0, 2, 9, 1, 0, 0, 0, 0xAA] ++
          (.fail .wouldBlock :: ReadEvent.bytes [0xC3, 0xBB])))
      = polled (((new []).setChunkSize 1).onStream (uninterrupted
        (ReadEvent.bytes [0x03, 0, 0, 5, 0, 0, 2, 9, 1, 0, 0, 0, 0xAA] ++
          (.fail .wouldBlock :: ReadEvent.bytes [0xC3, 0xBB])))) :=
  polled_betweenChunks _ _ (.chunk rfl rfl (.timeout rfl (.bytes _)))

/-- **A lost byte**: the second byte of a message header times out, and the next call reads the rest
of that header as a chunk of its own. -/
theorem polled_midHeader_ne :
    polled ((new []).onStream (ReadEvent.bytes [0x03, 0] ++
        (.fail .timedOut :: ReadEvent.bytes [0, 5, 0, 0, 1, 9, 1, 0, 0, 0, 0xAA])))
      ≠ polled ((new []).onStream (uninterrupted (ReadEvent.bytes [0x03, 0] ++
        (.fail .timedOut :: ReadEvent.bytes [0, 5, 0, 0, 1, 9, 1, 0, 0, 0, 0xAA])))) := by
  decide

end ChunkReader

end Rtmp
