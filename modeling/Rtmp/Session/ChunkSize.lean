import Rtmp.Session.Bandwidth

/-!
The chunk size over a whole connection.

* `Governs`: a chunk size is the one that was announced last;
* `Link.Synchronous`: a connection that is being set up reads every message with the size in force, and
  where the one before it left off;
* `Dispatcher.Synchronous`: so does a session;
* `chunkSize_governs` (**the size in force**): at every point of the four connections, as long as no
  other size is announced while the start of a publication is waited for.
-/

namespace Rtmp

open Relation (ReflTransGen)
open Link (opened Heeds Rests)

/-! ### The size that was announced last -/

/-- The size a message announces, as it stands on the wire without its reserved bit. -/
def sizeField (msg : Message) : Option ℕ :=
  if msg.msgTypeId = msgSetChunkSize then
    (readU32Be msg.payload).toOption.map fun size => (size &&& 0x7FFFFFFF).toNat
  else none

/-- After these messages the size is the last one announced, up to the legal maximum. -/
def Governs (size : ChunkSize) (msgs : List Message) : Prop :=
  ∀ pre msg post n, msgs = pre ++ msg :: post → sizeField msg = some n → 1 ≤ n →
    (∀ m ∈ post, sizeField m = none) → size.val = min n maxChunkSize

variable {size : ChunkSize} {msgs : List Message} {msg : Message}

lemma chunkSizeOf_eq (msg : Message) : chunkSizeOf msg = (sizeField msg).map .clamp := by
  rw [chunkSizeOf, sizeField]
  split_ifs
  · rw [Option.map_map]
    rfl
  · rfl

/-- Before the first message no size was announced. -/
lemma governs_nil (size : ChunkSize) : Governs size [] := by
  intro pre msg post n hmsgs
  simp at hmsgs

/-- One more message. -/
lemma Governs.snoc (h : Governs size msgs) (msg : Message) :
    Governs ((chunkSizeOf msg).getD size) (msgs ++ [msg]) := by
  intro pre m post n hmsgs hn hpos hlater
  rw [chunkSizeOf_eq]
  rcases List.eq_nil_or_concat post with rfl | ⟨post, last, rfl⟩
  · obtain ⟨-, hm⟩ := List.append_inj' hmsgs rfl
    obtain rfl : msg = m := List.singleton_injective hm
    rw [hn]
    exact ChunkSize.clamp_val_of_pos hpos
  · have hsplit : msgs ++ [msg] = (pre ++ m :: post) ++ [last] := by simpa using hmsgs
    obtain ⟨hinit, hlast⟩ := List.append_inj' hsplit rfl
    obtain rfl : msg = last := List.singleton_injective hlast
    have hnone : sizeField msg = none := hlater msg (by simp)
    rw [hnone]
    exact h pre m post n hinit hn hpos fun k hk => hlater k (by simp [hk])

/-! ### Setting up -/

namespace Link

/-- The size the connection reads with is the one in force. -/
def Governed (l : Link) : Prop := Governs l.reader.chunkSize l.heard

/-- How what is heard and what is read get from one point to the next: not at all, by a reading that
fails, or by that of a message, after which at most the limits are set. -/
inductive Reads (l l' : Link) : Prop
  | nothing (heard : l'.heard = l.heard) (reader : l'.reader = l.reader)
  | failure (e : Error) (hread : ChunkReader.readMessage.run l.reader = (.error e, l'.reader))
      (heard : l'.heard = l.heard)
  | message (msg : Message) (r : ChunkReader) (hread : ChunkReader.readMessage.run l.reader
      = (.ok msg, r))
      (heard : l'.heard = l.heard ++ [msg]) (wire : r.SameWire l'.reader)

/-- One thing that happens between two points at which the size is in force. -/
structure GovernedStep (l l' : Link) : Prop where
  before : l.Governed
  after : l'.Governed
  reads : l.Reads l'

/-- From the first point to the second nothing is read but messages, each with the size in force and
each where the one before it left off. -/
def Synchronous : Link → Link → Prop := ReflTransGen GovernedStep

variable {l l' : Link}

lemma governed_opened (stream : List ReadEvent) : (opened stream).Governed := governs_nil _

/-- A message that changes the size, or announces none, or the one in force. -/
lemma Governed.step {rule : Limits → Message → Limits} (h : l.Governed)
    (hrule : ∀ msg, l'.heard = l.heard ++ [msg] →
      (rule l.reader.limits msg).chunkSize = (chunkSizeOf msg).getD l.reader.chunkSize)
    (hstep : Step rule l l') : GovernedStep l l' := by
  have hsame : l'.heard = l.heard → l'.Governed := by
    intro heard
    have hsize : l'.reader.chunkSize = l.reader.chunkSize :=
      congrArg Limits.chunkSize (hstep.limits_of_heard heard)
    rw [Governed, heard, hsize]
    exact h
  cases hstep with
  | works heard reader => exact ⟨h, hsame heard, .nothing heard reader⟩
  | starves hread heard => exact ⟨h, hsame heard, .failure _ hread heard⟩
  | hears msg hread heard wire limits =>
      have hsize : l'.reader.chunkSize = (chunkSizeOf msg).getD l.reader.chunkSize :=
        (congrArg Limits.chunkSize limits).trans (hrule msg heard)
      refine ⟨h, ?_, .message msg _ hread heard wire⟩
      rw [Governed, heard, hsize]
      exact Governs.snoc h msg

/-- The waits of a negotiation keep the size in force. -/
lemma Heeds.synchronous (h : Heeds Limits.negotiate l l') (hl : l.Governed) :
    Synchronous l l' ∧ l'.Governed := by
  induction h with
  | refl => exact ⟨.refl, hl⟩
  | tail _ hstep ih =>
      have hgoverned := ih.2.step (fun _ _ => rfl) hstep
      exact ⟨ih.1.tail hgoverned, hgoverned.after⟩

/-- So does the wait for the start of a publication, if no other size is announced. -/
lemma Heeds.synchronous_ignore (h : Heeds Limits.ignore l l') (hl : l.Governed) {passed : List Message}
    (hpassed : l'.heard = l.heard ++ passed)
    (hsize : ∀ msg ∈ passed, ∀ size, chunkSizeOf msg = some size → size = l.reader.chunkSize) :
    Synchronous l l' ∧ l'.Governed ∧ l'.reader.chunkSize = l.reader.chunkSize := by
  induction h generalizing passed with
  | refl => exact ⟨.refl, hl, rfl⟩
  | @tail l₁ l₂ hrun hstep ih =>
      obtain ⟨msgs, hheard, -⟩ := Heeds.limits hrun
      have hnone : l₂.heard = l₁.heard → passed = msgs ++ [] := by
        intro heard
        rw [List.append_nil]
        exact List.append_cancel_left (hpassed.symm.trans (heard.trans hheard))
      obtain ⟨more, hmore⟩ : ∃ more, passed = msgs ++ more := by
        cases hstep with
        | works heard reader => exact ⟨[], hnone heard⟩
        | starves hread heard => exact ⟨[], hnone heard⟩
        | hears msg hread heard wire limits =>
            refine ⟨[msg], List.append_cancel_left (hpassed.symm.trans (heard.trans ?_))⟩
            rw [hheard, List.append_assoc]
      obtain ⟨hsync, hgoverned, hsame⟩ := ih hheard fun msg hmsg =>
        hsize msg (hmore ▸ List.mem_append_left _ hmsg)
      -- what it passes over names the size it already reads with
      have hone : GovernedStep l₁ l₂ := by
        refine Governed.step hgoverned (fun msg hmsg => ?_) hstep
        have hmem : msg ∈ passed := by
          rw [hmsg, hheard, List.append_assoc] at hpassed
          rw [← List.append_cancel_left hpassed]
          exact List.mem_append_right _ List.mem_cons_self
        cases hannounced : chunkSizeOf msg with
        | none => rfl
        | some size =>
            rw [hsize msg hmem size hannounced]
            exact hsame
      have hlimits : l₂.reader.limits = l₁.reader.limits := by
        have hsame := hstep.limits_of_heard
        cases hstep with
        | works heard reader => exact hsame heard
        | starves hread heard => exact hsame heard
        | hears msg hread heard wire limits => exact limits
      exact ⟨hsync.tail hone, hone.after, (congrArg Limits.chunkSize hlimits).trans hsame⟩

end Link

/-! ### Sessions -/

/-- After any number of rounds the size is the one in force. -/
def Dispatcher.Synchronous {τ α : Type} (d : Dispatcher τ α) (heard : List Message) (s : Session τ) :
    Prop :=
  ∀ n, Governs (d.rounds n s).reader.chunkSize (heard ++ d.served n s)

lemma Dispatcher.Heeding.synchronous {τ α : Type} {d : Dispatcher τ α} (hd : d.Heeding)
    {heard : List Message} {s : Session τ} (h : Governs s.reader.chunkSize heard) :
    d.Synchronous heard s := by
  intro n
  induction n with
  | zero =>
      rw [rounds, served, List.append_nil]
      exact h
  | succ n ih =>
      have hround := congrArg (fun limits => limits.1.chunkSize) (hd.round (d.rounds n s))
      rw [rounds, served, ← List.append_assoc]
      cases hserving : (d.rounds n s).serving with
      | none =>
          rw [hserving] at hround
          have hsize : (d.round (d.rounds n s)).2.reader.chunkSize = (d.rounds n s).reader.chunkSize :=
            hround
          rw [hsize, Option.map_none, Option.toList_none, List.append_nil]
          exact ih
      | some p =>
          rw [hserving] at hround
          have hsize : (d.round (d.rounds n s)).2.reader.chunkSize
              = (chunkSizeOf p.1).getD (d.rounds n s).reader.chunkSize := hround
          rw [hsize]
          exact ih.snoc p.1

/-! ### Chunks -/

namespace ChunkReader

/-- A chunk that was read took at most the size in force off the stream, whatever chunk stream it is
on. -/
lemma readPayload_takes {r r' : ChunkReader} {csid : UInt32} {fmt : UInt8} {out : Option Message}
    (h : (readPayload csid fmt).run r = (.ok out, r')) :
    ∃ st bs, r.states csid = some st ∧
      bs.length = min (st.msgLength.toNat - st.partialPayload.length) r.chunkSize.val ∧
      r.stream = ReadEvent.bytes bs ++ r'.stream := by
  obtain ⟨st, r₁, hstate, h⟩ := Eff.run_bind_eq_ok.mp h
  rw [run_requireState] at hstate
  cases hst : r.states csid with
  | none =>
      rw [hst] at hstate
      cases hstate
  | some st' =>
      rw [hst] at hstate
      cases hstate
      rw [Eff.run_gets_bind] at h
      obtain ⟨bs, r₂, hread, h⟩ := Eff.run_bind_eq_ok.mp h
      obtain ⟨hlen, hstream, -⟩ := readExactCounted_eq_ok hread
      have hrest : r'.stream = r₂.stream := by
        dsimp only at h
        split_ifs at h <;> cases h <;> rfl
      exact ⟨st, bs, rfl, hlen, by rw [hrest, hstream]⟩

/-- Reading a chunk leaves the size alone. -/
lemma chunkSize_readChunk (r : ChunkReader) : (readChunk.run r).2.chunkSize = r.chunkSize :=
  congrArg Limits.chunkSize (limits_closed.readChunk r)

end ChunkReader

/-! ### The four connections -/

/-- **The size in force**.  Whatever is sent, at every point of setting up a connection and in every
round of a session the chunk size is the one that was announced last, and every chunk is read with it;
but while a publisher waits for the start of its publication, no other size than the one in force may be
announced. -/
theorem chunkSize_governs (stream : List ReadEvent) :
    (∀ caps, Link.Synchronous (opened stream)
      ((driveUntilRequest caps).run (opened stream)).2) ∧
    (∀ u publishType caps, Link.Synchronous (opened stream)
      ((RtmpClient.requestPublish u publishType caps).run (opened stream)).2) ∧
    (∀ u publishType caps ids l out l' passed,
      (RtmpClient.requestPublish u publishType caps).run (opened stream) = (.ok ids, l) →
      waitForPublishStart.run l = (out, l') → l'.heard = l.heard ++ passed →
      (∀ msg ∈ passed, ∀ size, chunkSizeOf msg = some size → size = l.reader.chunkSize) →
      Link.Synchronous l l' ∧ ∀ own, RtmpClient.dispatcher.Synchronous l'.heard (l'.session own)) ∧
    (∀ u opts, Link.Synchronous (opened stream)
      ((RtmpPlayer.connectWithOptions u opts).run (opened stream)).2) ∧
    (∀ caps req l s l',
      (driveUntilRequest caps).run (opened stream) = (.ok (.publish req), l) →
      req.accept.run l = (.ok s, l') → RtmpSession.dispatcher.Synchronous l'.heard s) ∧
    (∀ caps req recorded l s l',
      (driveUntilRequest caps).run (opened stream) = (.ok (.play req), l) →
      (req.acceptMode recorded).run l = (.ok s, l') → PlaySession.dispatcher.Synchronous l'.heard s) ∧
    (∀ u opts player serverCaps l,
      (RtmpPlayer.connectWithOptions u opts).run (opened stream) = (.ok (player, serverCaps), l) →
      RtmpPlayer.dispatcher.Synchronous l.heard player) ∧
    ∀ r : ChunkReader, (ChunkReader.readChunk.run r).2.chunkSize = r.chunkSize ∧
      ∀ csid fmt out r', (ChunkReader.readPayload csid fmt).run r = (.ok out, r') →
        ∃ st bs, r.states csid = some st ∧
          bs.length = min (st.msgLength.toNat - st.partialPayload.length) r.chunkSize.val ∧
          r.stream = ReadEvent.bytes bs ++ r'.stream := by
  have hnegotiated : ∀ {l : Link},
      Heeds Limits.negotiate (opened stream) l → Link.Synchronous (opened stream) l ∧ l.Governed :=
    fun h => Link.Heeds.synchronous h (Link.governed_opened _)
  -- a step that reads nothing leaves the size as it is
  have hrests : ∀ {l l' : Link}, Rests l l' → l.Governed → l'.Governed := by
    intro l l' h hl
    rw [Link.Governed, h.1, h.2]
    exact hl
  refine ⟨fun caps => (hnegotiated (heeds_driveUntilRequest caps _)).1,
    fun u publishType caps => (hnegotiated (RtmpClient.heeds_requestPublish u publishType caps _)).1,
    ?_, fun u opts => (hnegotiated (RtmpPlayer.heeds_connectWithOptions u opts _)).1, ?_, ?_, ?_,
    fun r => ⟨ChunkReader.chunkSize_readChunk r, fun _ _ _ _ => ChunkReader.readPayload_takes⟩⟩
  · intro u publishType caps ids l out l' passed hrequest hwait hpassed hsize
    have hl := (hnegotiated ((RtmpClient.heeds_requestPublish u publishType caps).of_run hrequest)).2
    obtain ⟨hsync, hgoverned, -⟩ := Link.Heeds.synchronous_ignore
      (heeds_waitForPublishStart.of_run hwait) hl hpassed hsize
    exact ⟨hsync, fun own => RtmpClient.heeding.synchronous hgoverned⟩
  · intro caps req l s l' hrequest haccept
    obtain ⟨own, rfl⟩ := req.becomes_accept l l' s haccept
    have hl := (hnegotiated ((heeds_driveUntilRequest caps).of_run hrequest)).2
    exact RtmpSession.heeding.synchronous (hrests (req.rests_accept.of_run haccept) hl)
  · intro caps req recorded l s l' hrequest haccept
    obtain ⟨own, rfl⟩ := req.becomes_acceptMode recorded l l' s haccept
    have hl := (hnegotiated ((heeds_driveUntilRequest caps).of_run hrequest)).2
    exact PlaySession.heeding.synchronous
      (hrests ((req.rests_acceptMode recorded).of_run haccept) hl)
  · intro u opts player serverCaps l hconnect
    obtain ⟨own, rfl⟩ := RtmpPlayer.becomes_connectWithOptions u opts _ l _ hconnect
    exact RtmpPlayer.heeding.synchronous
      (hnegotiated ((RtmpPlayer.heeds_connectWithOptions u opts).of_run hconnect)).2

/-- A publisher that announces 4096 bytes once it publishes. -/
theorem chunkSize_governs_publisher :
    ∃ req l s l', (driveUntilRequest .default).run (opened (limiting (buildSetChunkSize 4096)))
        = (.ok (.publish req), l) ∧
      req.accept.run l = (.ok s, l') ∧
      (RtmpSession.dispatcher.rounds 1 s).reader.chunkSize.val = 4096 := by
  obtain ⟨req, l, s, l', hdrive, haccept, hheard, hserved⟩ :=
    accepted (limiting (buildSetChunkSize 4096)) limitingHeard (buildSetChunkSize 4096)
      (by decide +kernel) (by decide +kernel) (by decide +kernel)
  refine ⟨req, l, s, l', hdrive, haccept, ?_⟩
  have hgoverns := (chunkSize_governs _).2.2.2.2.1 _ _ _ _ _ hdrive haccept 1
  rw [hserved] at hgoverns
  exact hgoverns l'.heard (buildSetChunkSize 4096) [] 4096 rfl (by decide +kernel) (by decide) nofun

/-- A server that announces 4096 bytes before the start of the publication. -/
def announcing : List ReadEvent :=
  ReadEvent.bytes (sent [(csidCommand, buildConnectResultWithCaps (.ofNat 1) .default),
    (csidCommand, buildCreateStreamResult (.ofNat 4) (.ofNat 1)),
    (csidProtocolControl, buildSetChunkSize 4096),
    (csidProtocolControl, buildUserControlStreamBegin 1)])

/-- A run that has a value. -/
lemma succeeds {α : Type} {x : LinkM α} {l : Link} (h : (x.run l).1.toOption.isSome = true) :
    ∃ a, x.run l = (.ok a, (x.run l).2) := by
  rcases hrun : x.run l with ⟨e | a, l'⟩
  · rw [hrun] at h
    cases h
  · exact ⟨a, rfl⟩

/-- **The size that is not in force**: a publisher that waits for the start goes on with 128 bytes. -/
theorem not_governed_announcing :
    ∃ ids l l', (RtmpClient.requestPublish ⟨"live", "cam", "rtmp://host/live"⟩ "live" .default).run
        (opened announcing) = (.ok ids, l) ∧
      waitForPublishStart.run l = (.ok (), l') ∧
      l'.heard = l.heard ++ [buildSetChunkSize 4096, buildUserControlStreamBegin 1] ∧
      l'.reader.chunkSize.val = 128 ∧ ¬ l'.Governed := by
  obtain ⟨ids, hrequest⟩ := succeeds (x := RtmpClient.requestPublish
    ⟨"live", "cam", "rtmp://host/live"⟩ "live" .default) (l := opened announcing) (by decide +kernel)
  obtain ⟨_, hstart⟩ := succeeds (x := waitForPublishStart) (l := ((RtmpClient.requestPublish
    ⟨"live", "cam", "rtmp://host/live"⟩ "live" .default).run (opened announcing)).2) (by decide +kernel)
  have hheard : (waitForPublishStart.run ((RtmpClient.requestPublish
      ⟨"live", "cam", "rtmp://host/live"⟩ "live" .default).run (opened announcing)).2).2.heard
      = ((RtmpClient.requestPublish ⟨"live", "cam", "rtmp://host/live"⟩ "live" .default).run
          (opened announcing)).2.heard ++ [buildSetChunkSize 4096, buildUserControlStreamBegin 1] := by
    decide +kernel
  have hsize : (waitForPublishStart.run ((RtmpClient.requestPublish
      ⟨"live", "cam", "rtmp://host/live"⟩ "live" .default).run
        (opened announcing)).2).2.reader.chunkSize.val = 128 := by
    decide +kernel
  refine ⟨ids, _, _, hrequest, hstart, hheard, hsize, fun hgoverned => ?_⟩
  have hlast := hgoverned _ (buildSetChunkSize 4096) [buildUserControlStreamBegin 1] 4096
    hheard (by decide +kernel) (by decide) (by decide +kernel)
  rw [hsize] at hlast
  exact absurd hlast (by decide)

end Rtmp
