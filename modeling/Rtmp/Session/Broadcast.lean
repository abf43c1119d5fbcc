import Rtmp.Session.Player
import Rtmp.Session.Publication
import Rtmp.Session.Relay

/-!
What players hear of what a publisher sends.

* `Dispatcher.returns_reading`: what a connection returns for messages that are nothing to it but
  what they surface as;
* `PlaySession.forwardAll`: packets are relayed, one after the other;
* `StreamPacket.heard`: what a packet is for a player;
* **`broadcast`**: a publish session returns what a publisher sends, and every player that it is
  relayed to hears it.
-/

namespace Rtmp

open Flv ChunkWriter

/-! ### Reading -/

namespace Dispatcher

open Session

variable {τ α : Type} {d : Dispatcher τ α}

/-- Messages that surface and do nothing else are read to the end of the stream. -/
lemma returns_reading {es : List (Message × Option α)}
    (h : ∀ e ∈ es, ∀ s, (d.onWire e.1).run s = (.ok e.2, s)) {s : Session τ} (hopen : s.ended = false)
    (hidle : s.pendingSubs = []) (hdeliver : s.reader.Delivers (es.map Prod.fst)) :
    ∃ t, d.Returns s ((es.filterMap Prod.snd).map fun p => .ok (some p)) t ∧ t.reader.stream = [] ∧
      t.pendingSubs = [] ∧ t.ended = false := by
  induction es generalizing s with
  | nil =>
      cases hdeliver with
      | nil hstream => exact ⟨s, .refl, hstream, hidle, hopen⟩
  | cons e es ih =>
      cases hdeliver with
      | @cons _ r _ _ hread hrest =>
          obtain ⟨_, a, hack, halike⟩ := Bookkeeping.maybeSendAck (s.withReader r)
          -- it writes an acknowledgement at most, which the handler does not see
          have hround : d.round s = settle (.ok e.2, a) := by
            rw [d.round_of_read hopen hidle hread, show (d.serve e.1).run (s.withReader r)
              = (.ok e.2, a) from
              (Eff.run_bind_ok hack).trans (h e List.mem_cons_self a)]
          obtain ⟨t, hreturns, ht⟩ := ih (fun e' he' => h e' (List.mem_cons_of_mem _ he')) (s := a)
            (halike.ended.symm.trans hopen) (halike.pendingSubs.symm.trans hidle)
            (hrest.alike halike.reader)
          rcases e with ⟨msg, _ | p⟩
          · exact ⟨t, .silent hround hreturns, ht⟩
          · exact ⟨t, .result hround hreturns, ht⟩

/-- Calls return what the rounds have, and what the calls from where they lead return. -/
lemma Returns.take_calls {s t : Session τ} {outs : List (Except Error (Option α))}
    (h : d.Returns s outs t)
    (n : ℕ) : (d.calls n s).1 = (outs ++ (d.calls n t).1).take n := by
  rw [← h.calls n, Nat.add_comm outs.length n, Dispatcher.take_calls]

end Dispatcher

/-- At the end of the stream a player is over, and every call returns nothing. -/
lemma RtmpPlayer.calls_eof {q : RtmpPlayer} (hopen : q.ended = false) (hidle : q.pendingSubs = [])
    (hstream : q.reader.stream = []) (n : ℕ) :
    (dispatcher.calls n q).1 = List.replicate n (Except.ok none) := by
  have hround : dispatcher.round q = (some (.ok none), q.close) :=
    dispatcher.round_of_error hopen hidle (ChunkReader.readMessage_nil hstream)
  cases n with
  | zero => rfl
  | succ n =>
      rw [Dispatcher.calls, dispatcher.next_of_some hround, List.replicate_succ]
      exact congrArg (Except.ok none :: ·) (Dispatcher.calls_of_fixed (dispatcher.round_of_ended rfl) n)

/-! ### Relaying -/

namespace PlaySession

open Session

/-- Relay packets, one after the other. -/
def forwardAll : List StreamPacket → SessionM PlayState Unit
  | [] => pure ()
  | p :: ps => do
      forward p
      forwardAll ps

/-- Relaying packets writes their messages. -/
lemma run_forwardAll (ps : List StreamPacket) (s : PlaySession) :
    (forwardAll ps).run s
      = (onWriter (sendAll (sends (ps.filterMap (relayed s.own.streamId)))) :
        SessionM PlayState Unit).run s := by
  induction ps generalizing s with
  | nil => rfl
  | cons p ps ih =>
      have hforward := run_forward p s
      rcases hrelayed : relayed s.own.streamId p with _ | ⟨csid, msg⟩
      · rw [hrelayed] at hforward
        rw [List.filterMap_cons_none hrelayed, ← ih]
        exact Eff.run_bind_ok hforward
      · rw [hrelayed] at hforward
        rw [List.filterMap_cons_some hrelayed]
        have hall : ∀ w, (sendAll (sends ((csid, msg) :: ps.filterMap (relayed s.own.streamId)))).run w
            = (writeMessage csid msg >>= fun _ =>
              sendAll (sends (ps.filterMap (relayed s.own.streamId)))).run w :=
          fun _ => rfl
        rcases hwrite : (writeMessage csid msg).run s.writer with ⟨e | ⟨⟩, w⟩
        · -- a failed write ends both
          have herror := (hall s.writer).trans (Eff.run_bind_error hwrite)
          have hzoom :
            (onWriter (sendAll (sends ((csid, msg) :: ps.filterMap (relayed s.own.streamId))))
              : SessionM PlayState Unit).run s = (.error e, { s with writer := w }) :=
                Eff.run_zoom herror
          rw [hzoom]
          exact Eff.run_bind_error (hforward.trans (Eff.run_zoom hwrite))
        · rcases hsend : (sendAll (sends (ps.filterMap (relayed s.own.streamId)))).run w with ⟨out, w'⟩
          have hsent := (hall s.writer).trans ((Eff.run_bind_ok hwrite).trans hsend)
          have hzoom :
            (onWriter (sendAll (sends ((csid, msg) :: ps.filterMap (relayed s.own.streamId))))
              : SessionM PlayState Unit).run s = (out, { s with writer := w' }) := Eff.run_zoom hsent
          have hrest : (forwardAll ps).run { s with writer := w } = (out, { s with writer := w' }) :=
            (ih { s with writer := w }).trans (Eff.run_zoom hsend)
          rw [hzoom]
          exact (Eff.run_bind_ok (hforward.trans (Eff.run_zoom hwrite))).trans hrest

end PlaySession

/-! ### Hearing -/

/-- What a packet is for a player, once it has been relayed. -/
def StreamPacket.heard : StreamPacket → Option PlayerPacket
  | .audio ts tag => some (.audio ts tag)
  | .video ts tag => some (.video ts tag)
  | .metadata value => if IsRecord value then some (.metadata value) else none
  | .dataFrame _ value => if IsRecord value then some (.metadata value) else none
  | _ => none

lemma metadataObject_pair (handler : String) (value : Amf0Value) :
    metadataObject [.string handler, value] = if IsRecord value then some value else none := by
  cases value <;> rfl

open PlaySession

namespace Media

variable {m : Media}

lemma relayed_dataFrame (streamId : UInt32) (handler : String) (value : Amf0Value) :
    relayed streamId (dataFrame handler value).packet
      = some (csidData, buildDataMessage streamId handler value) := by
  by_cases h : handler = "onMetaData"
  · rw [packet, if_pos h, h]
    rfl
  · rw [packet, if_neg h]
    rfl

lemma heard_dataFrame (handler : String) (value : Amf0Value) :
    (dataFrame handler value).packet.heard
      = if IsRecord value then some (.metadata value) else none := by
  by_cases h : handler = "onMetaData"
  · rw [packet, if_pos h]
    rfl
  · rw [packet, if_neg h]
    rfl

/-- What is relayed of a message can be sent on. -/
lemma sendable_relayed (h : Send.Fits m) {streamId csid : UInt32} {msg : Message}
    (hrelayed : relayed streamId m.packet = some (csid, msg)) : Sendable (csid, msg) := by
  refine ⟨PlaySession.sendable_csid hrelayed, ?_⟩
  cases m with
  | video => cases hrelayed; exact h.2
  | audio => cases hrelayed; exact h.2
  | dataFrame handler value =>
      rw [relayed_dataFrame] at hrelayed
      cases hrelayed
      have hlen : ((dataFrame handler value).message 0).payload
          = Amf.encodeItems [.string setDataFrame]
          ++ (buildDataMessage streamId handler value).payload :=
        Amf.encodeItems_append [.string setDataFrame] [.string handler, value]
      have hfits := h.2
      rw [hlen, List.length_append] at hfits
      exact (Nat.le_add_left _ _).trans_lt hfits
  | clear => cases hrelayed

/-- What is relayed of a message is heard as what the message is. -/
lemma run_handleMessage_relayed (h : m.Codable) {streamId csid : UInt32} {msg : Message}
    (hrelayed : relayed streamId m.packet = some (csid, msg)) (q : RtmpPlayer) :
    (RtmpPlayer.handleMessage msg).run q = (.ok m.packet.heard, q) := by
  cases m with
  | video ts tag =>
      cases hrelayed
      show (Eff.ofExcept (parseVideo (buildVideo tag)) >>= fun tag =>
        pure (some (PlayerPacket.video ts tag))
        : SessionM PlayerState _).run q = _
      rw [parseVideo_buildVideo_of_wellFormed h]
      rfl
  | audio ts tag =>
      cases hrelayed
      show (Eff.ofExcept (parseAudio (buildAudio tag)) >>= fun tag =>
        pure (some (PlayerPacket.audio ts tag))
        : SessionM PlayerState _).run q = _
      rw [parseAudio_buildAudio_of_wellFormed h]
      rfl
  | dataFrame handler value =>
      rw [relayed_dataFrame] at hrelayed
      cases hrelayed
      show (Eff.ofExcept (Amf.decodeAll (Amf.encodeItems [.string handler, value])) >>= fun values =>
        pure ((metadataObject values).map PlayerPacket.metadata) : SessionM PlayerState _).run q = _
      rw [heard_dataFrame, Amf.decodeAll_of_spellable]
      · show (Except.ok ((metadataObject [.string handler, value]).map PlayerPacket.metadata), q) = _
        rw [metadataObject_pair]
        split_ifs <;> rfl
      · intro v hv
        rcases List.mem_pair.mp hv with rfl | rfl
        · exact ⟨h.1, (by decide : 1 ≤ maxDecodeDepth)⟩
        · exact h.2
  | clear => cases hrelayed

/-- What is not relayed is not heard. -/
lemma heard_of_not_relayed {streamId : UInt32} (h : relayed streamId m.packet = none) :
    m.packet.heard = none := by
  cases m with
  | video => cases h
  | audio => cases h
  | dataFrame handler value =>
      rw [relayed_dataFrame] at h
      cases h
  | clear => rfl

end Media

/-! ### The broadcast -/

/-- What is relayed is what the player hears: all that a player can hear of it, once each and in
order, and then that there is nothing more. -/
def Plays (ps : List StreamPacket) (p : PlaySession) (q : RtmpPlayer) : Prop :=
  ∃ p' cs, (forwardAll ps).run p = (.ok (), p') ∧ p'.writer.stream = p.writer.stream ++ cs ∧
    ∀ n, (RtmpPlayer.dispatcher.calls n { q with reader := q.reader.feed (ReadEvent.bytes cs) }).1
      = ((ps.filterMap StreamPacket.heard).map (fun x => Except.ok (some x))
          ++ List.replicate n (Except.ok none)).take n

/-- **Relaying**: a player in step with the play session hears what is relayed. -/
theorem plays_of_synced {ms : List Media} (h : ∀ m ∈ ms, Send.Fits m) {p : PlaySession} {q : RtmpPlayer}
    (hsync : Synced p.writer q.reader) (hstream : q.reader.stream = []) (hidle : q.pendingSubs = [])
    (hopen : q.ended = false) : Plays (ms.map Media.packet) p q := by
  -- Each message that is relayed, with what it is heard as.
  let hear (x : StreamPacket) : Option ((UInt32 × Message) × Option PlayerPacket) :=
    (relayed p.own.streamId x).map fun sent => (sent, x.heard)
  let heard := (ms.map Media.packet).filterMap hear
  have hheard : ∀ e ∈ heard, Sendable e.1 ∧ ∀ q, (RtmpPlayer.handleMessage e.1.2).run q
      = (.ok e.2, q) := by
    intro e he
    obtain ⟨x, hx, hmap⟩ := List.mem_filterMap.mp he
    obtain ⟨m, hm, rfl⟩ := List.mem_map.mp hx
    obtain ⟨⟨csid, msg⟩, hrelayed, rfl⟩ := Option.map_eq_some_iff.mp hmap
    exact ⟨Media.sendable_relayed (h m hm) hrelayed,
      Media.run_handleMessage_relayed (h m hm).1 hrelayed⟩
  -- what is sent is the first half of it
  have hpairs : (ms.map Media.packet).filterMap (relayed p.own.streamId) = heard.map Prod.fst := by
    rw [List.map_filterMap]
    refine List.filterMap_congr fun x _ => ?_
    show relayed p.own.streamId x = (hear x).map Prod.fst
    simp only [hear]
    cases relayed p.own.streamId x <;> rfl
  -- and what is surfaced is the second, as the rest is heard as nothing
  have houts : (ms.map Media.packet).filterMap StreamPacket.heard = heard.filterMap Prod.snd := by
    rw [List.filterMap_filterMap]
    refine List.filterMap_congr fun x hx => ?_
    obtain ⟨m, -, rfl⟩ := List.mem_map.mp hx
    simp only [hear]
    cases hrelayed : relayed p.own.streamId m.packet with
    | none => exact Media.heard_of_not_relayed hrelayed
    | some sent => rfl
  have hsendable : ∀ sent ∈ heard.map Prod.fst, Sendable sent := fun sent hsent => by
    obtain ⟨e, he, rfl⟩ := List.mem_map.mp hsent
    exact (hheard e he).1
  have hreads : ∀ e ∈ heard.map fun e => (e.1.2, e.2), ∀ q : RtmpPlayer,
      (RtmpPlayer.dispatcher.onWire e.1).run q = (.ok e.2, q) := fun e' he' => by
    obtain ⟨e, he, rfl⟩ := List.mem_map.mp he'
    exact (hheard e he).2
  -- the bytes of all of them, read by a player in step with the writer
  obtain ⟨cs, w, hsend, hw, hdeliver⟩ := delivers_sent hsendable p.writer
  refine ⟨{ p with writer := w }, cs, ?_, hw, fun n => ?_⟩
  · rw [run_forwardAll, hpairs]
    exact Eff.run_zoom hsend
  · have hwire := hdeliver (q.reader.feed (ReadEvent.bytes cs)) (hsync.of_eq rfl rfl rfl rfl)
      (by rw [ChunkReader.stream_feed, hstream, List.nil_append])
    obtain ⟨t, hreturns, hstream', hidle', hopen'⟩ := Dispatcher.returns_reading hreads
      (s := { q with reader := q.reader.feed (ReadEvent.bytes cs) }) hopen hidle (by
        rw [List.map_map] at hwire ⊢
        exact hwire)
    rw [hreturns.take_calls, RtmpPlayer.calls_eof hopen' hidle' hstream', houts, List.filterMap_map]
    rfl

/-- **A broadcast**: the publish session returns what the publisher sends, whatever the calls that
it sends it by, and every player hears it when it is relayed. -/
theorem broadcast {xs : List Send} (h : ∀ x ∈ xs, x.Legal) {s : RtmpClient} {t : RtmpSession}
    (hsync : Synced s.writer t.reader) (hstream : t.reader.stream = []) (hidle : t.pendingSubs = [])
    (hopen : t.ended = false) :
    Publishes xs s t ∧
      ∀ (p : PlaySession) (q : RtmpPlayer), Synced p.writer q.reader → q.reader.stream = [] →
        q.pendingSubs = [] → q.ended = false →
        Plays ((xs.flatMap Send.contents).map Media.packet) p q := by
  refine ⟨publishes_of_synced h hsync hstream hidle hopen, fun p q hsync hstream hidle hopen => ?_⟩
  refine plays_of_synced (fun m hm => ?_) hsync hstream hidle hopen
  obtain ⟨x, hx, hm⟩ := List.mem_flatMap.mp hm
  exact (h x hx).fits m hm

/-- A title, then a frame of sound and the end of the title in one message: the end of the title is
not relayed. -/
theorem broadcast_titled :
    let c : AudioTag := ⟨9, 0, false, false, none, some 1, some ⟨0x6D, 0x70, 0x34, 0x61⟩, [1], [], none⟩
    Publishes [.metadata (.ecmaArray []), .aggregate [(7, .audio 50 c), (1, .clear "onMetaData")]]
        (.opened (.new []) .new ⟨1, .ofNat 10, "rtmp://host/live"⟩)
        (.opened (.new []) .new ⟨"live", "cam", "live", 1, []⟩) ∧
      Plays [.metadata (.ecmaArray []), .audio 50 c, .dataFrameCleared "onMetaData"]
        (.opened (.new []) .new ⟨"live", "cam", 1⟩)
        (.opened (.new []) .new ⟨1, "rtmp://host/live", "cam", false, .ofNat 10⟩) := by
  intro c
  have hc : c.WellFormed := (parseAudio_eq_ok (by decide +kernel : parseAudio (buildAudio c) = .ok c)).1
  have hname : (Utf8.encode "onMetaData").length < 2 ^ 32 := by decide +kernel
  have hlegal :
    ∀ x ∈ ([.metadata (.ecmaArray []), .aggregate [(7, .audio 50 c), (1, .clear "onMetaData")]]
      : List Send), x.Legal := by
    intro x hx
    rcases List.mem_pair.mp hx with rfl | rfl
    · exact ⟨⟨hname, trivial, (by decide : 1 ≤ maxDecodeDepth)⟩, by decide +kernel⟩
    · refine ⟨fun p hp => ?_, by decide +kernel⟩
      rcases List.mem_pair.mp hp with rfl | rfl
      · exact hc
      · exact hname
  have h := broadcast hlegal (s := .opened (.new []) .new ⟨1, .ofNat 10, "rtmp://host/live"⟩)
    (t := .opened (.new []) .new ⟨"live", "cam", "live", 1, []⟩) (synced_new []) rfl rfl rfl
  exact ⟨h.1, h.2 _ _ (synced_new []) rfl rfl rfl⟩

end Rtmp
