import Rtmp.Session.Online

/-!
Two connections that are set up with each other, message by message.

* `Tells`, `Hears`: what a party of a negotiation tells the other next, and what it goes on with when it
  hears;
* `Dialogue`: two parties with the messages that are on the way to each of them;
* `Transit`: the bytes that messages are on the way in, whatever chunk sizes they announce;
* **`Realizes.simulates`**: what happens message by message happens byte by byte;
* `Concludes`, `concludes_of_dialogue`: one dialogue that ends is what all runs over the bytes come to.
-/

namespace Rtmp

open Duplex (Net Replay EndsIn)
open Eff (Steady replay)
open Relation (ReflTransGen)

/-- The writer uses a chunk size that it has announced. -/
def ChunkWriter.heed (msg : Message) (w : ChunkWriter) : ChunkWriter :=
  if msg.msgTypeId = msgSetChunkSize then w.setChunkSize (u32OfBe msg.payload &&& 0x7FFFFFFF).toNat
  else w

lemma ChunkWriter.stream_heed (msg : Message) (w : ChunkWriter) : (w.heed msg).stream = w.stream := by
  rw [ChunkWriter.heed]
  split_ifs <;> rfl

lemma heed_feed (msg : Message) (r : ChunkReader) (es : List ReadEvent) :
    heed msg (r.feed es) = (heed msg r).feed es := by
  rw [heed, heed]
  split_ifs <;> rfl

/-- Both sides heed a message. -/
lemma Synced.heed {w : ChunkWriter} {r : ChunkReader} (h : Synced w r) (msg : Message) :
    Synced (w.heed msg) (heed msg r) := by
  rw [ChunkWriter.heed, Rtmp.heed]
  split_ifs
  · exact h.setChunkSize _
  · exact h.of_eq rfl rfl rfl rfl
  · exact h.of_eq rfl rfl rfl rfl
  · exact h

namespace Link

variable {α γ : Type} {x x' : LinkM α} {y y' : LinkM γ} {msg : Message}

/-- The connection after a message was written and heeded. -/
def telling (csid : UInt32) (msg : Message) (l : Link) : Link :=
  { l with writer := ((ChunkWriter.writeMessage csid msg).run l.writer).2.heed msg }

/-- The connection after a message that was heard is heeded. -/
def heeding (msg : Message) (l : Link) : Link := { l with reader := heed msg l.reader }

/-- The first thing `x` does is to tell something that can be told, and then it goes on as `x'`. -/
structure Tells (x : LinkM α) (csid : UInt32) (msg : Message) (x' : LinkM α) : Prop where
  sendable : Sendable (csid, msg)
  run : ∀ l, x.run l = x'.run (l.telling csid msg)

/-- The first thing `x` does is to wait for a message, and when it is this one it goes on as `x'`. -/
structure Hears (x : LinkM α) (msg : Message) (x' : LinkM α) : Prop where
  heard : ∀ l l', hear.run l = (.ok msg, l') → x.run l = x'.run (l'.heeding msg)
  starved : ∀ l l', hear.run l = (.error (.io .unexpectedEof), l') →
    x.run l = (.error (.io .unexpectedEof), l')

/-- There is nothing left to do but to take down how it ended, which is not for want of input. -/
structure Ends (x : LinkM α) (out : Link → Except Error α) : Prop where
  run : ∀ l, x.run l = (out l, l)
  settled : ∀ l, out l ≠ .error (.io .unexpectedEof)

/-- One of two parties tells something, or hears the next message that is on its way. -/
inductive Dialogue : Net Message (LinkM α) (LinkM γ) → Net Message (LinkM α) (LinkM γ) → Prop
  | leftTells {x x' : LinkM α} {y : LinkM γ} {r l : List Message} {csid : UInt32} {msg : Message}
      (h : Tells x csid msg x') (hsteady : Steady x') : Dialogue ⟨x, y, r, l⟩ ⟨x', y, r ++ [msg], l⟩
  | leftHears {x x' : LinkM α} {y : LinkM γ} {r l : List Message} {msg : Message} (h : Hears x msg x') :
      Dialogue ⟨x, y, r, msg :: l⟩ ⟨x', y, r, l⟩
  | rightTells {x : LinkM α} {y y' : LinkM γ} {r l : List Message} {csid : UInt32} {msg : Message}
      (h : Tells y csid msg y') (hsteady : Steady y') : Dialogue ⟨x, y, r, l⟩ ⟨x, y', r, l ++ [msg]⟩
  | rightHears {x : LinkM α} {y y' : LinkM γ} {r l : List Message} {msg : Message}
      (h : Hears y msg y') :
      Dialogue ⟨x, y, msg :: r, l⟩ ⟨x, y', r, l⟩

lemma Dialogue.swap {c d : Net Message (LinkM α) (LinkM γ)} (h : Dialogue c d) :
    Dialogue c.swap d.swap := by
  cases h with
  | leftTells h hsteady => exact .rightTells h hsteady
  | leftHears h => exact .rightHears h
  | rightTells h hsteady => exact .leftTells h hsteady
  | rightHears h => exact .leftHears h

/-! ### Messages on their way -/

/-- The bytes hold these messages for the reader, and after them it is up to date with the writer. -/
inductive Transit (w : ChunkWriter) : List UInt8 → List Message → ChunkReader → Prop
  | nil {r : ChunkReader} (hread : r.stream = []) (h : Synced w r) : Transit w [] [] r
  | cons {r r' : ChunkReader} {bs cs : List UInt8} {msg : Message} {msgs : List Message}
      (hread : r.stream = [])
      (h : ChunkReader.readMessage.run (r.feed (ReadEvent.bytes bs)) = (.ok msg, r'))
      (hend : r'.stream = []) (hrest : Transit w cs msgs (heed msg r')) :
      Transit w (bs ++ cs) (msg :: msgs) r

lemma Transit.stream {w : ChunkWriter} {bs : List UInt8} {msgs : List Message} {r : ChunkReader}
    (h : Transit w bs msgs r) : r.stream = [] := by
  cases h with
  | nil hread => exact hread
  | cons hread => exact hread

/-- One more message. -/
lemma Transit.snoc {w w' : ChunkWriter} {bs cs : List UInt8} {msgs : List Message} {r : ChunkReader}
    (h : Transit w bs msgs r)
    (hnext : ∀ (r : ChunkReader) es, Synced w r → r.stream = ReadEvent.bytes cs ++ es →
      ∃ r', ChunkReader.readMessage.run r = (.ok msg, r') ∧ r'.stream = es ∧ Synced w' r') :
    Transit (w'.heed msg) (bs ++ cs) (msgs ++ [msg]) r := by
  induction h with
  | @nil r hread hsync =>
      obtain ⟨r', hrun, hend, hsync'⟩ := hnext (r.feed (ReadEvent.bytes cs)) []
        (hsync.of_eq rfl rfl rfl rfl) (by rw [ChunkReader.stream_feed, hread]; simp)
      have hlast : Transit (w'.heed msg) [] [] (heed msg r') :=
        .nil (by rw [stream_heed, hend]) (hsync'.heed msg)
      have hone := Transit.cons hread hrun hend hlast
      rwa [List.append_nil] at hone
  | cons hread hrun hend _ ih =>
      rw [List.append_assoc, List.cons_append]
      exact .cons hread hrun hend ih

/-- If none of the messages announces a chunk size, the reader has that of the writer. -/
lemma Transit.chunkSize {w : ChunkWriter} {bs : List UInt8} {msgs : List Message} {r : ChunkReader}
    (h : Transit w bs msgs r) (hmsgs : ∀ msg ∈ msgs, msg.msgTypeId ≠ msgSetChunkSize) :
    r.chunkSize = w.chunkSize := by
  induction h with
  | nil _ hsync => exact hsync.size
  | @cons r r' bs cs msg msgs _ hrun _ _ ih =>
      obtain ⟨hmsg, hlater⟩ := List.forall_mem_cons.mp hmsgs
      have hsize : (heed msg r').chunkSize = r'.chunkSize := by
        rw [heed, if_neg hmsg]
        split_ifs <;> rfl
      have hread : r'.chunkSize = r.chunkSize := by
        have hlimits := congrArg Limits.chunkSize
          (ChunkReader.limits_readMessage (r.feed (ReadEvent.bytes bs)))
        rw [hrun] at hlimits
        exact hlimits
      rw [← hread, ← hsize, ih hlater]

/-! ### Byte by byte -/

/-- Nothing is written while a message is heard. -/
lemma writer_hear (l : Link) : (hear.run l).2.writer = l.writer := by
  have htrans : IsTrans Link fun l l' => l'.writer = l.writer := ⟨fun _ _ _ h h' => h'.trans h⟩
  have hread : Eff.Along (fun l l' : Link => l'.writer = l.writer) (onReader ChunkReader.readMessage) :=
    fun _ => rfl
  exact (hread.bind fun msg => .bind (fun _ => rfl) fun _ _ => rfl) l

/-- A message is heard when its last byte has arrived. -/
lemma run_hear_feed {l : Link} {bs : List UInt8} {r : ChunkReader}
    (h : ChunkReader.readMessage.run (l.reader.feed (ReadEvent.bytes bs)) = (.ok msg, r))
    (hend : r.stream = []) :
    (∀ es, hear.run (Port.feed (bs ++ es) l)
      = (.ok msg, Port.feed es { l with reader := r, heard := l.heard ++ [msg] })) ∧
    ∀ pre b post, bs = pre ++ b :: post →
      ∃ l', hear.run (Port.feed pre l) = (.error (.io .unexpectedEof), l') ∧ l'.writer = l.writer := by
  have hall : hear.run (Port.feed bs l)
      = (.ok msg, { l with reader := r, heard := l.heard ++ [msg] }) := run_hear h
  refine ⟨fun es => ?_, fun pre b post hbs => ?_⟩
  · rw [Port.feed_append]
    exact online_hear.settled hall nofun es
  · rcases hpre : hear.run (Port.feed pre l) with ⟨out, l'⟩
    have hwriter : l'.writer = l.writer := by
      rw [← show (hear.run (Port.feed pre l)).2.writer = l.writer from writer_hear _, hpre]
    by_cases hout : out = .error (.io .unexpectedEof)
    · exact ⟨l', by rw [hout], hwriter⟩
    · -- A message that is there before its last byte would leave that byte.
      exfalso
      have hmore := online_hear.settled hpre hout (b :: post)
      rw [← Port.feed_append, ← hbs, hall] at hmore
      have hstream := congrArg (fun p => p.2.reader.stream) hmore
      change r.stream = l'.reader.stream ++ ReadEvent.bytes (b :: post) at hstream
      rw [hend, ReadEvent.bytes_cons] at hstream
      simp at hstream

/-- Two parties over bytes are where two over messages are. -/
structure Realizes (c : Net Message (LinkM α) (LinkM γ)) (a b : Link)
    (n : Net UInt8 (Replay UInt8 (Except Error α × Link)) (Replay UInt8 (Except Error γ × Link))) :
    Prop where
  left : n.left = replay c.left a
  right : n.right = replay c.right b
  toRight : Transit a.writer n.toRight c.toRight b.reader
  toLeft : Transit b.writer n.toLeft c.toLeft a.reader

namespace Realizes

variable {c d : Net Message (LinkM α) (LinkM γ)} {a b : Link}
  {n : Net UInt8 (Replay UInt8 (Except Error α × Link)) (Replay UInt8 (Except Error γ × Link))}

lemma swap (h : Realizes c a b n) : Realizes c.swap b a n.swap :=
  ⟨h.right, h.left, h.toLeft, h.toRight⟩

/-- A party tells something. -/
lemma tells {r l : List Message} {csid : UInt32} (htells : Tells x csid msg x') (hsteady : Steady x')
    (h : Realizes ⟨x, y, r, l⟩ a b n) :
    ∃ n', Net.Run ⊤ ⊤ n n' ∧ Realizes ⟨x', y, r ++ [msg], l⟩ (a.telling csid msg) b n' := by
  obtain ⟨p, q, toRight, toLeft⟩ := n
  obtain ⟨hleft, hright, htoRight, htoLeft⟩ := h
  obtain rfl : p = replay x a := hleft
  obtain rfl : q = replay y b := hright
  obtain ⟨⟨hlo, hhi⟩, hlen⟩ := htells.sendable
  obtain ⟨bs, w', hrun, hstream, -, hread⟩ := writeMessage_synced (w := a.writer) hlo hhi hlen
  have htelling : a.telling csid msg = { a with writer := w'.heed msg } := by
    rw [telling, hrun]
  have hout : (a.telling csid msg).writer.stream = a.writer.stream ++ bs := by
    rw [htelling, ChunkWriter.stream_heed, hstream]
  have hsame : (replay x a).run = (replay x' (a.telling csid msg)).run := by
    funext es
    have hfeed := htells.run (Port.feed es a)
    exact congrArg (fun p => (Port.sent p.2, Eff.ended p)) hfeed
  have hput : bs <+: ((replay x a).run []).1.drop a.writer.stream.length := by
    rw [hsame]
    show bs <+: List.drop _ (Port.sent (x'.run (Port.feed [] (a.telling csid msg))).2)
    rw [Port.feed_nil]
    obtain ⟨rest, hrest⟩ := hsteady.grows (a.telling csid msg)
    change (a.telling csid msg).writer.stream ++ rest = _ at hrest
    rw [← hrest, hout, List.append_assoc, List.drop_left]
    exact List.prefix_append _ _
  refine ⟨⟨⟨(replay x a).run, a.writer.stream.length + bs.length⟩, replay y b, toRight ++ bs,
    toLeft⟩, Replay.flush hput le_top, ⟨?_, rfl, ?_, htoLeft⟩⟩
  · rw [hsame, ← List.length_append, ← hout]
    rfl
  · rw [htelling]
    exact htoRight.snoc hread

/-- A party hears something. -/
lemma hears {r l : List Message} (hhears : Hears x msg x')
    (h : Realizes ⟨x, y, r, msg :: l⟩ a b n) :
    ∃ a' n', Net.Run ⊤ ⊤ n n' ∧ Realizes ⟨x', y, r, l⟩ a' b n' := by
  obtain ⟨p, q, toRight, toLeft⟩ := n
  obtain ⟨hleft, hright, htoRight, htoLeft⟩ := h
  obtain rfl : p = replay x a := hleft
  obtain rfl : q = replay y b := hright
  cases htoLeft with
  | @cons _ r' bs cs _ _ hread hrun hend hrest =>
      obtain ⟨hheard, hstarved⟩ := run_hear_feed hrun hend
      -- before the last byte of the message it has no more than waited
      have hwaits : ∀ pre c post, bs = pre ++ c :: post →
          ((replay x a).run pre).1.length ≤ a.writer.stream.length ∧
            ((replay x a).run pre).2 = none := by
        intro pre c post hbs
        obtain ⟨l', hpre, hwriter⟩ := hstarved pre c post hbs
        show (Port.sent (x.run (Port.feed pre a)).2).length ≤ _ ∧
          Eff.ended (x.run (Port.feed pre a)) = none
        rw [hhears.starved _ _ hpre]
        exact ⟨le_of_eq (congrArg (fun w : ChunkWriter => w.stream.length) hwriter),
          Eff.ended_starved _⟩
      refine ⟨heeding msg { a with reader := r', heard := a.heard ++ [msg] }, _,
        Replay.drain hwaits, ⟨?_, rfl, htoRight, hrest⟩⟩
      have hsame : (fun es => (replay x a).run (bs ++ es)) = (replay x' (heeding msg
          { a with reader := r', heard := a.heard ++ [msg] })).run := by
        funext es
        have hfeed := hhears.heard _ _ (hheard es)
        rw [show heeding msg (Port.feed es { a with reader := r', heard := a.heard ++ [msg] })
          = Port.feed es (heeding msg { a with reader := r', heard := a.heard ++ [msg] }) from
            congrArg (fun r => ({ a with reader := r, heard := a.heard ++ [msg] } : Link))
              (heed_feed msg r' _)] at hfeed
        exact congrArg (fun p => (Port.sent p.2, Eff.ended p)) hfeed
      show (⟨fun es => (replay x a).run (bs ++ es), a.writer.stream.length⟩ : Replay _ _) = _
      rw [hsame]
      rfl

/-- **Byte by byte**: what two parties do message by message, they do byte by byte. -/
theorem simulates (hstep : Dialogue c d) (h : Realizes c a b n) :
    ∃ a' b' n', Net.Run ⊤ ⊤ n n' ∧ Realizes d a' b' n' := by
  cases hstep with
  | leftTells htells hsteady =>
      obtain ⟨n', hrun, hn'⟩ := h.tells htells hsteady
      exact ⟨_, _, n', hrun, hn'⟩
  | leftHears hhears =>
      obtain ⟨a', n', hrun, hn'⟩ := h.hears hhears
      exact ⟨a', b, n', hrun, hn'⟩
  | rightTells htells hsteady =>
      obtain ⟨n', hrun, hn'⟩ := h.swap.tells htells hsteady
      exact ⟨_, _, n'.swap, hrun.swap, hn'.swap⟩
  | rightHears hhears =>
      obtain ⟨b', n', hrun, hn'⟩ := h.swap.hears hhears
      exact ⟨a, b', n'.swap, hrun.swap, hn'.swap⟩

/-- Whole dialogues. -/
lemma simulates_run (hrun : ReflTransGen Dialogue c d) (h : Realizes c a b n) :
    ∃ a' b' n', Net.Run ⊤ ⊤ n n' ∧ Realizes d a' b' n' := by
  induction hrun with
  | refl => exact ⟨a, b, n, .refl, h⟩
  | tail _ hstep ih =>
      obtain ⟨a', b', n', hrun', hn'⟩ := ih
      obtain ⟨a'', b'', n'', hrun'', hn''⟩ := hn'.simulates hstep
      exact ⟨a'', b'', n'', hrun'.trans hrun'', hn''⟩

end Realizes

/-- Two parties that have ended, each as its connection says, with what is left on the way to them;
each reads chunks of the size that the other writes. -/
structure Settled (out : Link → Except Error α) (out' : Link → Except Error γ) (r l : List Message)
    (a b : Link) (n : Net UInt8 (Replay UInt8 (Except Error α × Link))
      (Replay UInt8 (Except Error γ × Link))) : Prop where
  left : n.left.result = some (out a, a)
  right : n.right.result = some (out' b, b)
  toRight : Transit a.writer n.toRight r b.reader
  toLeft : Transit b.writer n.toLeft l a.reader
  sizeRight : b.reader.chunkSize = a.writer.chunkSize
  sizeLeft : a.reader.chunkSize = b.writer.chunkSize

/-- Two parties of a new connection settle so, however what they put on the wire and take off it is
interleaved, if the channels have room for what they write. -/
def Concludes (x : LinkM α) (y : LinkM γ) (out : Link → Except Error α) (out' : Link → Except Error γ)
    (r l : List Message) : Prop :=
  ∃ a b n, Settled out out' r l a b n ∧
    ∀ capR capL : ℕ∞, (a.writer.stream.length : ℕ∞) ≤ capR → (b.writer.stream.length : ℕ∞) ≤ capL →
      EndsIn (Net.Step capR capL) ⟨replay x (opened []), replay y (opened []), [], []⟩ n

/-- A party that has ended does nothing more. -/
lemma Ends.replay {out : Link → Except Error α} (h : Ends x out) (a : Link) :
    (Eff.replay x a).result = some (out a, a) ∧ Duplex.Machine.act (Eff.replay x a) = .halt := by
  have hresult : (Eff.replay x a).result = some (out a, a) := by
    show Eff.ended (x.run (Port.feed [] a)) = _
    rw [Port.feed_nil, h.run a]
    exact Eff.ended_of_ne (h.settled a) a
  refine ⟨hresult, Replay.act_halt ?_ hresult⟩
  show (Port.sent (x.run (Port.feed [] a)).2).length ≤ a.writer.stream.length
  rw [Port.feed_nil, h.run a]
  exact le_refl _

/-- **One dialogue is enough**: if two parties can talk until both have ended, then they do so in every
run. -/
theorem concludes_of_dialogue {out : Link → Except Error α} {out' : Link → Except Error γ}
    {r l : List Message} (h : ReflTransGen Dialogue ⟨x, y, [], []⟩ ⟨x', y', r, l⟩) (hx : Ends x' out)
    (hy : Ends y' out') (hr : ∀ msg ∈ r, msg.msgTypeId ≠ msgSetChunkSize)
    (hl : ∀ msg ∈ l, msg.msgTypeId ≠ msgSetChunkSize) : Concludes x y out out' r l := by
  have hstart : Realizes (⟨x, y, [], []⟩ : Net Message (LinkM α) (LinkM γ)) (opened []) (opened [])
      ⟨replay x (opened []), replay y (opened []), [], []⟩ :=
    ⟨rfl, rfl, .nil rfl (synced_new []), .nil rfl (synced_new [])⟩
  obtain ⟨a, b, ⟨p, q, toRight, toLeft⟩, hrun, hleft, hright, htoRight, htoLeft⟩ :=
    hstart.simulates_run h
  obtain rfl : p = replay x' a := hleft
  obtain rfl : q = replay y' b := hright
  obtain ⟨hresult, hhalt⟩ := hx.replay a
  obtain ⟨hresult', hhalt'⟩ := hy.replay b
  refine ⟨a, b, _, ⟨hresult, hresult', htoRight, htoLeft, htoRight.chunkSize hr, htoLeft.chunkSize hl⟩,
    fun capR capL hcapR hcapL => ?_⟩
  exact .of_run Net.diamond_step (Replay.run_within hrun (Nat.zero_le _) (Nat.zero_le _) hcapR hcapL)
    (.refl (Net.final_of_halt hhalt hhalt'))

/-! ### What parties tell and hear -/

section Rules

variable {β σ : Type} {csid : UInt32} {f : α → LinkM β}

lemma Tells.bind (h : Tells x csid msg x') (f : α → LinkM β) : Tells (x >>= f) csid msg (x' >>= f) where
  sendable := h.sendable
  run l := by rw [Eff.run_bind, h.run, Eff.run_bind]

lemma Hears.bind (h : Hears x msg x') (f : α → LinkM β) : Hears (x >>= f) msg (x' >>= f) where
  heard l l' hhear := by rw [Eff.run_bind, h.heard l l' hhear, Eff.run_bind]
  starved l l' hhear := by rw [Eff.run_bind_error (h.starved l l' hhear)]

/-- What one goes on with may be spelled differently. -/
lemma Tells.congr {x'' : LinkM α} (h : Tells x csid msg x') (heq : ∀ l, x'.run l = x''.run l) :
    Tells x csid msg x'' := ⟨h.sendable, fun l => (h.run l).trans (heq _)⟩

lemma Hears.congr {x'' : LinkM α} (h : Hears x msg x') (heq : ∀ l, x'.run l = x''.run l) :
    Hears x msg x'' := ⟨fun l l' hhear => (h.heard l l' hhear).trans (heq _), h.starved⟩

lemma run_write (h : Sendable (csid, msg)) (l : Link) : (write csid msg).run l
    = (.ok (), { l with writer := ((ChunkWriter.writeMessage csid msg).run l.writer).2 }) := by
  obtain ⟨⟨hlo, hhi⟩, hlen⟩ := h
  obtain ⟨bs, w', hrun, -⟩ := writeMessage_synced (w := l.writer) hlo hhi hlen
  rw [hrun]
  show (onWriter (ChunkWriter.writeMessage csid msg)).run l = _
  exact Eff.run_zoom hrun

/-- A message that announces no chunk size. -/
lemma tells_write (h : Sendable (csid, msg)) (htype : msg.msgTypeId ≠ msgSetChunkSize) :
    Tells (write csid msg) csid msg (pure ()) where
  sendable := h
  run l := by rw [run_write h, telling, ChunkWriter.heed, if_neg htype, Eff.run_pure]

/-- A chunk size that is announced and used. -/
lemma tells_announce {size : UInt32} (hsize : size &&& 0x7FFFFFFF = size) :
    Tells (announceChunkSize size) csidProtocolControl (buildSetChunkSize size) (pure ()) := by
  have hsend : Sendable (csidProtocolControl, buildSetChunkSize size) :=
    ⟨(by decide : 2 ≤ csidProtocolControl.toNat ∧ csidProtocolControl.toNat ≤ 65599),
      lt_of_eq_of_lt (Bytes.length_toBe 4 _) (by norm_num)⟩
  have htype : (buildSetChunkSize size).msgTypeId = msgSetChunkSize := rfl
  refine ⟨hsend, fun l => ?_⟩
  have hfield : u32OfBe (buildSetChunkSize size).payload &&& 0x7FFFFFFF = size := by
    show u32OfBe (Bytes.toBe 4 (size &&& 0x7FFFFFFF).toNat) &&& 0x7FFFFFFF = size
    rw [u32OfBe_toBe, hsize, hsize]
  rw [announceChunkSize, Eff.run_bind_ok (run_write hsend l), telling, ChunkWriter.heed,
    if_pos htype, hfield]
  rfl

lemma tells_write_bind (h : Sendable (csid, msg)) (htype : msg.msgTypeId ≠ msgSetChunkSize)
    (f : Unit → LinkM β) : Tells (write csid msg >>= f) csid msg (f ()) := (tells_write h htype).bind f

lemma tells_announce_bind {size : UInt32} (hsize : size &&& 0x7FFFFFFF = size) (f : Unit → LinkM β) :
    Tells (announceChunkSize size >>= f) csidProtocolControl (buildSetChunkSize size) (f ()) :=
  (tells_announce hsize).bind f

/-- A wait goes on with what it does with the message. -/
lemma hears_waitFor {step : σ → Message → LinkM (σ ⊕ β)}
    (hshrinks : ∀ st msg, Eff.Along Shrinks (step st msg)) {st : σ} {z : LinkM β}
    (h : ∀ l, (step st msg >>= Sum.elim (waitFor step) pure).run l = z.run (heeding msg l)) :
    Hears (waitFor step st) msg z where
  heard l l' hhear := by
    have hless := shrinks_hear hhear
    rw [← h l']
    show (await step (l.reader.stream.length + 1) st).run l = _
    rw [await, Eff.run_bind_ok hhear, Eff.run_bind, Eff.run_bind]
    have hmore := hshrinks st msg l'
    rcases hstep : (step st msg).run l' with ⟨e | st' | b, l₂⟩
    · rfl
    · rw [hstep] at hmore
      exact await_rounds hshrinks (lt_of_le_of_lt hmore hless) (Nat.lt_succ_self _)
    · rfl
  starved l l' hhear := by
    show (await step (l.reader.stream.length + 1) st).run l = _
    rw [await, Eff.run_bind_error hhear]

end Rules

end Link

end Rtmp
