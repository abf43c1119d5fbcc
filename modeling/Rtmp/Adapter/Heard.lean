import Rtmp.Adapter.EndOfStream
import Rtmp.Adapter.Probe

/-!
What a packet source does is decided by the events it has heard.

* `Bridge.feed`: events in a row, of which some may not convert: the packets of the others, and the
  bridge after all of them; `Bridge.after` and `Bridge.produced` from the start;
* `PacketSource.heard`: the events among the answers of the session;
* `PacketSource.Fed`: the bridge is the one after the events heard, and their packets are those that
  were returned and those at hand, in this order;
* `steadyNext_feeds`, `nextPacket_feeds`, `probeLoop_fed`: the loop, a call and a probe keep this;
* `calls_fed` (**heard**): so does every number of calls.
-/

namespace Rtmp

open Flv

/-! ### Events in a row -/

namespace Bridge

/-- The packets of the events that convert, and the bridge after all events. -/
def feed : List MediaSourceEvent → Bridge → List Packet × Bridge
  | [], b => ([], b)
  | ev :: evs, b =>
      (((convert ev).run b).1.toOption.getD [] ++ (feed evs ((convert ev).run b).2).1,
        (feed evs ((convert ev).run b).2).2)

/-- The bridge after the events. -/
def after (evs : List MediaSourceEvent) : Bridge := (feed evs .new).2

/-- The packets of the events. -/
def produced (evs : List MediaSourceEvent) : List Packet := (feed evs .new).1

lemma feed_append (evs more : List MediaSourceEvent) (b : Bridge) :
    feed (evs ++ more) b
      = ((feed evs b).1 ++ (feed more (feed evs b).2).1, (feed more (feed evs b).2).2) := by
  induction evs generalizing b with
  | nil => rfl
  | cons ev evs ih => simp only [List.cons_append, feed, ih, List.append_assoc]

lemma after_snoc (evs : List MediaSourceEvent) (ev : MediaSourceEvent) :
    after (evs ++ [ev]) = ((convert ev).run (after evs)).2 := by
  rw [after, feed_append]
  rfl

lemma produced_snoc (evs : List MediaSourceEvent) (ev : MediaSourceEvent) :
    produced (evs ++ [ev])
      = produced evs ++ ((convert ev).run (after evs)).1.toOption.getD [] := by
  rw [produced, feed_append]
  simp only [feed, List.append_nil]
  rfl

/-- What the bridge makes of an event that it converts. -/
lemma feed_snoc_of_run {evs : List MediaSourceEvent} {ev : MediaSourceEvent}
    {out : Except Error (List Packet)} {b : Bridge} (h : (convert ev).run (after evs) = (out, b)) :
    after (evs ++ [ev]) = b ∧ produced (evs ++ [ev]) = produced evs ++ out.toOption.getD [] := by
  rw [after_snoc, produced_snoc, h]
  exact ⟨rfl, rfl⟩

/-- The streams are in order after any events. -/
lemma sorted_after (evs : List MediaSourceEvent) : (after evs).Sorted := by
  induction evs using List.reverseRecOn with
  | nil => exact List.Pairwise.nil
  | append_singleton evs ev ih =>
      rw [after_snoc]
      exact ih.convert ev

end Bridge

/-! ### A source -/

/-- The events among the answers of a source. -/
def AnswerLog.events (log : AnswerLog) : List MediaSourceEvent := log.filterMap Except.toOption

lemma AnswerLog.events_append (log log' : AnswerLog) :
    AnswerLog.events (log ++ log') = AnswerLog.events log ++ AnswerLog.events log' :=
    List.filterMap_append

namespace PacketSource

open Bridge

variable {S : Type}

/-- The events that a source has heard. -/
def heard (a : PacketSource (S × AnswerLog)) : List MediaSourceEvent := a.log.events

/-- The packets among the results of calls. -/
def packetsOf (outs : List (Except CoreError Packet)) : List Packet := outs.filterMap Except.toOption

/-- The bridge is that of the events heard, whose packets were sent or are at hand. -/
structure Fed (sent : List Packet) (a : PacketSource (S × AnswerLog)) : Prop where
  bridge : a.toBridge = .after a.heard
  packets : sent ++ a.queued = produced a.heard

/-- After a call, from `a` on, the packet that was returned is one more that was sent. -/
structure Feeds (sent : List Packet) (a : PacketSource (S × AnswerLog))
    (r : Except CoreError Packet × PacketSource (S × AnswerLog)) : Prop where
  fed : Fed (sent ++ packetsOf [r.1]) r.2
  grows : a.heard <+: r.2.heard

variable {src : MediaSource S} {sent : List Packet}

lemma heard_error {a c : PacketSource (S × AnswerLog)} {e : Error}
    (hlog : c.log = a.log ++ [.error e]) : c.heard = a.heard := by
  rw [heard, hlog, AnswerLog.events_append]
  exact List.append_nil _

lemma heard_event {a c : PacketSource (S × AnswerLog)} {ev : MediaSourceEvent}
    (hlog : c.log = a.log ++ [.ok ev]) : c.heard = a.heard ++ [ev] := by
  rw [heard, hlog, AnswerLog.events_append]
  rfl

lemma prefix_heard {a c : PacketSource (S × AnswerLog)} {ev : MediaSourceEvent}
    (hlog : c.log = a.log ++ [.ok ev]) : a.heard <+: c.heard :=
  heard_event hlog ▸ List.prefix_append _ _

/-- A call that fails sends no packet. -/
lemma Feeds.error {a c : PacketSource (S × AnswerLog)} {e : CoreError} (hfed : Fed sent c)
    (hgrows : a.heard <+: c.heard) : Feeds sent a (.error e, c) := by
  refine ⟨?_, hgrows⟩
  rw [packetsOf, List.filterMap_cons_none rfl, List.filterMap_nil, List.append_nil]
  exact hfed

/-- A failure of the session changes nothing. -/
lemma Fed.error {a c : PacketSource (S × AnswerLog)} (h : Fed sent a) {e : Error}
    (hlog : c.log = a.log ++ [.error e]) (hbridge : c.toBridge = a.toBridge)
    (hqueued : c.queued = a.queued) : Fed sent c := by
  have hheard := heard_error hlog
  exact ⟨by rw [hbridge, hheard, h.bridge], by rw [hqueued, hheard, h.packets]⟩

/-- An event is heard, and its packets come after all others. -/
lemma Fed.event {a c : PacketSource (S × AnswerLog)} (h : Fed sent a) {ev : MediaSourceEvent}
    {out : Except Error (List Packet)} {b : Bridge} {m : List Packet}
    (hrun : (convert ev).run a.toBridge = (out, b)) (hlog : c.log = a.log ++ [.ok ev])
    (hbridge : c.toBridge = b) (hqueued : m ++ c.queued = a.queued ++ out.toOption.getD []) :
    Fed (sent ++ m) c := by
  have hheard := heard_event hlog
  rw [h.bridge] at hrun
  obtain ⟨hafter, hproduced⟩ := feed_snoc_of_run hrun
  refine ⟨by rw [hbridge, hheard, hafter], ?_⟩
  rw [hheard, hproduced, ← h.packets, List.append_assoc, List.append_assoc, hqueued]

/-- The loop, with nothing at hand: the packet it returns comes next. -/
lemma steadyNext_feeds {a : PacketSource (S × AnswerLog)} (h : Fed sent a)
    (hbuffered : a.buffered = []) (hpending : a.pending = []) :
    Feeds sent a (steadyNext src.logged a) := by
  induction hs : a.session using src.logged.wellFounded.induction generalizing a with
  | _ s ih =>
      subst hs
      have hqueued : a.queued = [] := by rw [queued, hbuffered, hpending]; rfl
      rw [steadyNext_eq]
      rw [src.nextMedia_logged]
      rcases hmedia : src.nextMedia a.session.1 with ⟨e | ev, s'⟩
      · let c : PacketSource (S × AnswerLog) := { a with session := (s', a.session.2 ++ [.error e]) }
        have hfed : Fed sent c := h.error rfl rfl rfl
        exact .error hfed ((heard_error (c := c) rfl).symm ▸ List.prefix_rfl)
      · dsimp only
        -- nothing is returned, and what is at hand stays
        have hquiet : ∀ {c : PacketSource (S × AnswerLog)} {out : Except Error (List Packet)}
            {b : Bridge}, (convert ev).run a.toBridge = (out, b) → out.toOption.getD [] = [] →
            c.log = a.log ++ [.ok ev] → c.toBridge = b → c.queued = a.queued → Fed sent c := by
          intro c out b hrun hnone hlog hbridge hsame
          have hfed := h.event hrun hlog hbridge (m := []) (by
            rw [hnone, hsame, List.nil_append, List.append_nil])
          rwa [List.append_nil] at hfed
        by_cases hev : ev.isFinish
        · rw [if_pos hev]
          obtain rfl := MediaSourceEvent.isFinish_iff.mp hev
          let c : PacketSource (S × AnswerLog) :=
            { a with session := (s', a.session.2 ++ [.ok .finish]), ended := true }
          have hfed : Fed sent c := hquiet rfl rfl rfl rfl rfl
          exact .error hfed (prefix_heard (c := c) rfl)
        · rw [if_neg hev]
          rcases hconvert : (convert ev).run a.toBridge with ⟨e | _ | ⟨first, rest⟩, b⟩
          · let c : PacketSource (S × AnswerLog) :=
              { a with session := (s', a.session.2 ++ [.ok ev]), toBridge := b }
            have hfed : Fed sent c := hquiet hconvert rfl rfl rfl rfl
            exact .error hfed (prefix_heard (c := c) rfl)
          · let c : PacketSource (S × AnswerLog) :=
              { a with session := (s', a.session.2 ++ [.ok ev]), toBridge := b }
            have hfed : Fed sent c := hquiet hconvert rfl rfl rfl rfl
            -- an event without packets: the source goes round again, nearer to its end
            obtain ⟨hlater, hgrows⟩ := ih _ (src.nearer_logged hmedia hev) hfed hbuffered hpending rfl
            exact ⟨hlater, (prefix_heard (c := c) rfl).trans hgrows⟩
          · let c : PacketSource (S × AnswerLog) := { a with
              session := (s', a.session.2 ++ [.ok ev]), toBridge := b, pending := a.pending ++ rest }
            -- the first packet goes out, and the others wait
            have hrest : c.queued = rest := by
              change a.buffered.map BufferedPacket.packet ++ (a.pending ++ rest) = rest
              rw [hbuffered, hpending]
              rfl
            have hfed : Fed (sent ++ [first]) c :=
              h.event hconvert rfl rfl (by rw [hqueued, hrest]; rfl)
            exact ⟨hfed, prefix_heard (c := c) rfl⟩

lemma nextPacket_feeds {a : PacketSource (S × AnswerLog)} (h : Fed sent a) :
    Feeds sent a (nextPacket src.logged a) := by
  rw [nextPacket]
  rcases hbuffered : a.buffered with _ | ⟨buf, rest⟩
  · rcases hpending : a.pending with _ | ⟨packet, rest⟩
    · dsimp only
      by_cases hended : a.ended = true
      · rw [if_pos hended]
        exact .error h List.prefix_rfl
      · rw [if_neg hended]
        exact steadyNext_feeds h hbuffered hpending
    · refine ⟨⟨h.bridge, ?_⟩, List.prefix_rfl⟩
      have hqueue : a.queued = packet :: rest := by
        rw [queued, hbuffered, hpending]
        rfl
      calc sent ++ [packet] ++ rest
          = sent ++ a.queued := by rw [hqueue, List.append_assoc]; rfl
        _ = produced a.heard := h.packets
  · refine ⟨⟨h.bridge, ?_⟩, List.prefix_rfl⟩
    have hqueue : a.queued = buf.packet :: (rest.map BufferedPacket.packet ++ a.pending) := by
      rw [queued, hbuffered]
      rfl
    calc sent ++ [buf.packet] ++ (rest.map BufferedPacket.packet ++ a.pending)
        = sent ++ a.queued := by rw [hqueue, List.append_assoc]; rfl
      _ = produced a.heard := h.packets

/-- **Heard**: after any number of calls the bridge is that of the events heard, and the packets of
these were returned, or are at hand. -/
theorem calls_fed (n : ℕ) {a : PacketSource (S × AnswerLog)} (h : Fed sent a) :
    Fed (sent ++ packetsOf (calls src.logged n a).1) (calls src.logged n a).2 ∧
      a.heard <+: (calls src.logged n a).2.heard := by
  induction n generalizing a sent with
  | zero =>
      refine ⟨?_, List.prefix_rfl⟩
      rw [packetsOf, calls, List.filterMap_nil, List.append_nil]
      exact h
  | succ n ih =>
      obtain ⟨hfirst, hgrows⟩ : Feeds sent a (nextPacket src.logged a) := nextPacket_feeds h
      obtain ⟨hrest, hlater⟩ := ih hfirst
      refine ⟨?_, hgrows.trans hlater⟩
      rw [List.append_assoc, packetsOf, packetsOf, ← List.filterMap_append] at hrest
      exact hrest

/-- A probe keeps the packets of every event it looks at. -/
lemma probeLoop_fed {rounds : ℕ} {haveAudio haveVideo : Bool} {state state' : ProbeState}
    {p p' : S × AnswerLog} (h : Fed [] (state.source p))
    (hrun : probeLoop src.logged rounds haveAudio haveVideo state p = (.ok state', p')) :
    Fed [] (state'.source p') := by
  induction rounds generalizing haveAudio haveVideo state p with
  | zero =>
      cases hrun
      exact h
  | succ rounds ih =>
      rw [probeLoop] at hrun
      by_cases hboth : haveAudio && haveVideo
      · rw [if_pos hboth] at hrun
        cases hrun
        exact h
      rw [if_neg hboth] at hrun
      rw [src.nextMedia_logged] at hrun
      rcases hmedia : src.nextMedia p.1 with ⟨e | ev, s'⟩
      all_goals rw [hmedia] at hrun
      all_goals dsimp only at hrun
      · -- a failure that the probe swallows has brought no packet
        have herror : Fed [] (state.source (s', p.2 ++ [.error e])) := h.error rfl rfl rfl
        cases e with
        | io kind =>
            dsimp only at hrun
            split_ifs at hrun
            · cases hrun
              exact herror
            · cases hrun
        | _ => cases hrun
      · split_ifs at hrun with hev
        · cases hrun
          obtain rfl := MediaSourceEvent.isFinish_iff.mp hev
          exact h.event (c := ProbeState.source { state with ended := true } (s', p.2 ++ [.ok .finish]))
            (m := []) rfl rfl rfl (List.append_nil _).symm
        · rcases hconvert : (convert ev).run state.toBridge with ⟨e | packets, b⟩
          · rw [hconvert] at hrun
            cases hrun
          · rw [hconvert] at hrun
            refine ih ?_ hrun
            -- what an event brings is kept for the source that is built
            refine h.event (c := (state.keep ev packets b).source (s', p.2 ++ [.ok ev])) (m := [])
              hconvert rfl rfl ?_
            simp only [queued, ProbeState.source, List.append_nil, List.nil_append, state.packets_keep]
            rfl

/-- A source that was just opened has sent nothing. -/
lemma Opened.fed {s : S} {a : PacketSource (S × AnswerLog)} (h : Opened src.logged (s, []) a) :
    Fed [] a := by
  rcases h with rfl | h
  · exact ⟨rfl, rfl⟩
  · rw [fromSessionWithProbe, probeSource] at h
    rcases hloop : probeLoop src.logged probeLimit false false ⟨.new, [], false⟩ (s, [])
      with ⟨e | state, p⟩
    · rw [hloop] at h
      cases h
    · rw [hloop] at h
      cases h
      have hstart : Fed [] (ProbeState.source ⟨.new, [], false⟩ ((s, []) : S × AnswerLog)) := ⟨rfl, rfl⟩
      obtain ⟨hbridge, hpackets⟩ := probeLoop_fed hstart hloop
      refine ⟨?_, hpackets⟩
      -- the streams were in order
      have hsorted : state.toBridge.Sorted := by
        have heq : state.toBridge = .after (ProbeState.source state p).heard := hbridge
        rw [heq]
        exact sorted_after _
      have hsame : sortStreams state.streams = state.streams := sortStreams_of_sorted hsorted
      simp only [hsame]
      exact hbridge

/-- Calls on a source that was just opened. -/
lemma Opened.calls_fed {s : S} {a : PacketSource (S × AnswerLog)} (h : Opened src.logged (s, []) a)
    (n : ℕ) : Fed (packetsOf (calls src.logged n a).1) (calls src.logged n a).2 :=
  (PacketSource.calls_fed n h.fed).1

/-- More calls hear the same events first. -/
lemma heard_mono {a : PacketSource (S × AnswerLog)} (h : Fed sent a) {m n : ℕ} (hmn : m ≤ n) :
    (calls src.logged m a).2.heard <+: (calls src.logged n a).2.heard := by
  induction m generalizing a sent n with
  | zero => exact (PacketSource.calls_fed n h).2
  | succ m ih =>
      obtain ⟨n, rfl⟩ := Nat.exists_eq_succ_of_ne_zero (by omega : n ≠ 0)
      exact ih (nextPacket_feeds h).fed (Nat.le_of_succ_le_succ hmn)

end PacketSource

end Rtmp
