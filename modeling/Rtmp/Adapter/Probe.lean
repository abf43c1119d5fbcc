import Rtmp.Adapter.Source

/-!
A probed source delivers what a source that was not probed delivers.

* `MediaSource.Gives`: the events a session gives, one after the other, before its end;
* `Bridge.convertAll`: the packets of events in a row;
* `PacketSource.Delivers`: the packets a source still has for its caller, and the bridge it ends with,
  wherever they are: buffered, pending, or not yet asked for;
* `Delivers.next`, `Delivers.next_eof`: a call takes the first of them, or finds the end;
* `probeLoop_delivers`: probing moves packets into the buffer and loses none;
* `probing_invisible` (**probing**): no call tells the two sources apart.
-/

namespace Rtmp

open Flv

variable {S : Type} (src : MediaSource S)

/-- Asked again and again from `s`, the source gives `evs`, none of them its end, and is then in
`t`. -/
inductive MediaSource.Gives : S → List MediaSourceEvent → S → Prop
  | done {s : S} : Gives s [] s
  | more {s s' t : S} {ev : MediaSourceEvent} {evs : List MediaSourceEvent}
      (h : src.nextMedia s = (.ok ev, s')) (hev : ev ≠ .finish) (hrest : Gives s' evs t) :
      Gives s (ev :: evs) t

/-! ### Events in a row -/

namespace Bridge

/-- The packets of events in a row. -/
def convertAll : List MediaSourceEvent → Eff Error Bridge (List Packet)
  | [] => pure []
  | ev :: evs => do
      let packets ← convert ev
      let rest ← convertAll evs
      pure (packets ++ rest)

lemma convertAll_cons {ev : MediaSourceEvent} {evs : List MediaSourceEvent} {packets : List Packet}
    {b b' : Bridge} (h : (convertAll (ev :: evs)).run b = (.ok packets, b')) :
    ∃ first rest b₁, (convert ev).run b = (.ok first, b₁) ∧
      (convertAll evs).run b₁ = (.ok rest, b') ∧ packets = first ++ rest := by
  obtain ⟨first, b₁, hfirst, h⟩ := Eff.run_bind_eq_ok.mp h
  obtain ⟨rest, b₂, hrest, h⟩ := Eff.run_bind_eq_ok.mp h
  cases h
  exact ⟨first, rest, b₁, hfirst, hrest, rfl⟩

end Bridge

/-- The tracks of the message, if it has several, can be taken apart. -/
def MediaSourceEvent.Converts : MediaSourceEvent → Prop
  | audio _ tag => tag.isMultitrack = true → ∃ tracks, tag.demuxTracks = .ok tracks
  | video _ tag => tag.isMultitrack = true → ∃ tracks, tag.demuxTracks = .ok tracks
  | _ => True

lemma mediaPackets_ok {T : Type} (k : MediaKind T) (tsMs : Int64) {tag : T} (b : Bridge)
    (h : k.isMultitrack tag = true → ∃ tracks, k.demuxTracks tag = .ok tracks) :
    ∃ packets b', (mediaPackets k tsMs tag).run b = (.ok packets, b') := by
  rw [mediaPackets]
  by_cases hmulti : k.isMultitrack tag = true
  · obtain ⟨tracks, hdemux⟩ := h hmulti
    rw [if_pos hmulti, hdemux]
    exact ⟨_, _, rfl⟩
  · rw [if_neg hmulti]
    exact ⟨_, _, rfl⟩

lemma MediaSourceEvent.Converts.run {ev : MediaSourceEvent} (h : ev.Converts) (b : Bridge) :
    ∃ packets b', (Bridge.convert ev).run b = (.ok packets, b') := by
  cases ev with
  | audio timestamp tag =>
      rw [Bridge.run_convert_audio]
      exact mediaPackets_ok audioMedia _ _ h
  | video timestamp tag =>
      rw [Bridge.run_convert_video]
      exact mediaPackets_ok videoMedia _ _ h
  | metadata value => exact ⟨_, _, rfl⟩
  | skip => exact ⟨_, _, rfl⟩
  | finish => exact ⟨_, _, rfl⟩

lemma convertAll_ok {evs : List MediaSourceEvent} (h : ∀ ev ∈ evs, ev.Converts) (b : Bridge) :
    ∃ packets b', (Bridge.convertAll evs).run b = (.ok packets, b') := by
  induction evs generalizing b with
  | nil => exact ⟨[], b, rfl⟩
  | cons ev evs ih =>
      obtain ⟨hev, hevs⟩ := List.forall_mem_cons.mp h
      obtain ⟨first, b₁, hfirst⟩ := hev.run b
      obtain ⟨rest, b₂, hrest⟩ := ih hevs b₁
      exact ⟨first ++ rest, b₂, by rw [Bridge.convertAll, Eff.run_bind_ok hfirst,
        Eff.run_bind_ok hrest, Eff.run_pure]⟩

/-! ### What a source still has -/

namespace PacketSource

/-- The packets that are at hand. -/
def queued (a : PacketSource S) : List Packet := a.buffered.map BufferedPacket.packet ++ a.pending

/-- The source has `packets` for its caller and then no more, and is left with the bridge `b`. -/
def Delivers (a : PacketSource S) (packets : List Packet) (b : Bridge) : Prop :=
  (a.ended = true ∧ packets = a.queued ∧ b = a.toBridge) ∨
    (a.ended = false ∧ ∃ evs t t' later, src.Gives a.session evs t ∧
      src.nextMedia t = (.ok .finish, t') ∧
      (Bridge.convertAll evs).run a.toBridge = (.ok later, b) ∧ packets = a.queued ++ later)

variable {src} {a : PacketSource S} {packet : Packet} {packets : List Packet} {b : Bridge}

/-- With nothing at hand the loop runs until an event has a packet. -/
lemma steadyNext_delivers {evs : List MediaSourceEvent} {t t' : S}
    (hopen : a.ended = false) (hbuffered : a.buffered = []) (hpending : a.pending = [])
    (hgives : src.Gives a.session evs t) (hend : src.nextMedia t = (.ok .finish, t'))
    (hrun : (Bridge.convertAll evs).run a.toBridge = (.ok (packet :: packets), b)) :
    ∃ a', steadyNext src a = (.ok packet, a') ∧ Delivers src a' packets b := by
  induction evs generalizing a with
  | nil => cases hrun
  | cons ev evs ih =>
      obtain ⟨first, rest, b₁, hfirst, hrest, hpackets⟩ := Bridge.convertAll_cons hrun
      cases hgives with
      | more hnext hev hgives =>
          rw [steadyNext_eq, hnext]
          simp only [if_neg (mt MediaSourceEvent.isFinish_iff.mp hev), hfirst]
          cases first with
          | nil =>
              rw [List.nil_append] at hpackets
              rw [← hpackets] at hrest
              exact ih hopen hbuffered hpending hgives hrest
          | cons head tail =>
              rw [List.cons_append, List.cons.injEq] at hpackets
              obtain ⟨rfl, rfl⟩ := hpackets
              refine ⟨_, rfl, .inr ⟨hopen, evs, t, t', rest, hgives, hend, hrest, ?_⟩⟩
              rw [queued, hbuffered, hpending]
              rfl

/-- With nothing at hand and no packet to come the loop runs to the end. -/
lemma steadyNext_eof {evs : List MediaSourceEvent} {t t' : S}
    (hbuffered : a.buffered = []) (hpending : a.pending = [])
    (hgives : src.Gives a.session evs t) (hend : src.nextMedia t = (.ok .finish, t'))
    (hrun : (Bridge.convertAll evs).run a.toBridge = (.ok [], b)) :
    ∃ a', steadyNext src a = (.error .eof, a') ∧ a'.ended = true ∧ a'.queued = [] ∧
      a'.toBridge = b := by
  induction evs generalizing a with
  | nil =>
      cases hrun
      cases hgives
      rw [steadyNext_eq, hend]
      refine ⟨_, rfl, rfl, ?_, rfl⟩
      rw [queued, hbuffered, hpending]
      rfl
  | cons ev evs ih =>
      obtain ⟨first, rest, b₁, hfirst, hrest, hpackets⟩ := Bridge.convertAll_cons hrun
      obtain ⟨rfl, rfl⟩ := List.append_eq_nil_iff.mp hpackets.symm
      cases hgives with
      | more hnext hev hgives =>
          rw [steadyNext_eq, hnext]
          simp only [if_neg (mt MediaSourceEvent.isFinish_iff.mp hev), hfirst]
          exact ih hbuffered hpending hgives hrest

/-- A call takes the first packet of those the source has. -/
lemma Delivers.next (h : Delivers src a (packet :: packets) b) :
    ∃ a', nextPacket src a = (.ok packet, a') ∧ Delivers src a' packets b := by
  rw [nextPacket]
  rcases hbuffered : a.buffered with _ | ⟨buf, rest⟩
  · rcases hpending : a.pending with _ | ⟨first, rest⟩
    · have hqueued : a.queued = [] := by rw [queued, hbuffered, hpending]; rfl
      rcases h with ⟨hended, hpackets, -⟩ | ⟨hopen, evs, t, t', later, hgives, hend, hrun, hpackets⟩
      · rw [hqueued] at hpackets
        cases hpackets
      · rw [hqueued, List.nil_append] at hpackets
        rw [← hpackets] at hrun
        simp only [hopen]
        exact steadyNext_delivers hopen hbuffered hpending hgives hend hrun
    · have hqueued : a.queued = first :: rest := by rw [queued, hbuffered, hpending]; rfl
      rcases h with ⟨hended, hpackets, hb⟩ | ⟨hopen, evs, t, t', later, hgives, hend, hrun, hpackets⟩
      · rw [hqueued, List.cons.injEq] at hpackets
        obtain ⟨rfl, rfl⟩ := hpackets
        exact ⟨_, rfl, .inl ⟨hended, rfl, hb⟩⟩
      · rw [hqueued, List.cons_append, List.cons.injEq] at hpackets
        obtain ⟨rfl, rfl⟩ := hpackets
        exact ⟨_, rfl, .inr ⟨hopen, evs, t, t', later, hgives, hend, hrun, rfl⟩⟩
  · have hqueued : a.queued = buf.packet :: (rest.map BufferedPacket.packet ++ a.pending) := by
      rw [queued, hbuffered]
      rfl
    rcases h with ⟨hended, hpackets, hb⟩ | ⟨hopen, evs, t, t', later, hgives, hend, hrun, hpackets⟩
    · rw [hqueued, List.cons.injEq] at hpackets
      obtain ⟨rfl, rfl⟩ := hpackets
      exact ⟨_, rfl, .inl ⟨hended, rfl, hb⟩⟩
    · rw [hqueued, List.cons_append, List.cons.injEq] at hpackets
      obtain ⟨rfl, rfl⟩ := hpackets
      exact ⟨_, rfl, .inr ⟨hopen, evs, t, t', later, hgives, hend, hrun, rfl⟩⟩

/-- A call that has no packet left finds the end, and so does every one after it. -/
lemma Delivers.next_eof (h : Delivers src a [] b) :
    ∃ a', nextPacket src a = (.error .eof, a') ∧ Delivers src a' [] b ∧ a'.toBridge = b := by
  have hqueued : a.queued = [] := by
    rcases h with ⟨-, hpackets, -⟩ | ⟨-, evs, t, t', later, -, -, -, hpackets⟩
    · exact hpackets.symm
    · exact (List.append_eq_nil_iff.mp hpackets.symm).1
  obtain ⟨hmap, hpending⟩ := List.append_eq_nil_iff.mp hqueued
  have hbuffered := List.map_eq_nil_iff.mp hmap
  rw [nextPacket, hbuffered, hpending]
  rcases h with ⟨hended, -, hb⟩ | ⟨hopen, evs, t, t', later, hgives, hend, hrun, hpackets⟩
  · simp only [hended]
    exact ⟨a, rfl, .inl ⟨hended, hqueued.symm, hb⟩, hb.symm⟩
  · rw [hqueued, List.nil_append] at hpackets
    rw [← hpackets] at hrun
    simp only [hopen]
    obtain ⟨a', heof, hended, hnone, hb⟩ := steadyNext_eof hbuffered hpending hgives hend hrun
    exact ⟨a', heof, .inl ⟨hended, hnone.symm, hb.symm⟩, hb⟩

/-- Calls in a row take the packets in order and then find the end again and again. -/
theorem Delivers.calls (h : Delivers src a packets b) (n : ℕ) :
    (calls src n a).1
        = (packets.map Except.ok ++ List.replicate n (Except.error CoreError.eof)).take n ∧
      (packets.length < n → (PacketSource.calls src n a).2.toBridge = b) := by
  induction n generalizing a packets with
  | zero => exact ⟨rfl, fun hlt => absurd hlt (Nat.not_lt_zero _)⟩
  | succ n ih =>
      cases packets with
      | nil =>
          obtain ⟨a', hnext, hrest, hb⟩ := h.next_eof
          obtain ⟨houts, hbridge⟩ := ih hrest
          rw [PacketSource.calls, hnext]
          refine ⟨?_, fun _ => ?_⟩
          · rw [houts]
            simp [List.replicate_succ]
          · cases n with
            | zero => exact hb
            | succ n => exact hbridge (Nat.succ_pos n)
      | cons packet packets =>
          obtain ⟨a', hnext, hrest⟩ := h.next
          obtain ⟨houts, hbridge⟩ := ih hrest
          rw [PacketSource.calls, hnext]
          refine ⟨?_, fun hlt => hbridge (Nat.lt_of_succ_lt_succ hlt)⟩
          -- one end more than is looked at
          have hmore : (packets.map Except.ok
              ++ List.replicate (n + 1) (Except.error CoreError.eof)).take n
                = (packets.map Except.ok ++ List.replicate n (Except.error CoreError.eof)).take n := by
            rw [List.replicate_succ', ← List.append_assoc]
            exact List.take_append_of_le_length (by simp)
          rw [List.map_cons, List.cons_append, List.take_succ_cons, hmore, houts]

end PacketSource

/-! ### Probing -/

/-- The streams are in the order of their indices. -/
def Bridge.Sorted (b : Bridge) : Prop := b.streams.Pairwise fun s t => s.index ≤ t.index

lemma sorted_sortStreams (streams : List StreamInfo) :
    (sortStreams streams).Pairwise fun s t => s.index ≤ t.index := by
  have hsorted : (sortStreams streams).Pairwise fun s t => decide (s.index ≤ t.index) = true :=
    List.pairwise_mergeSort (fun a b c hab hbc => by
      rw [decide_eq_true_eq] at hab hbc ⊢
      exact UInt32.le_trans hab hbc) (fun a b => by
      rw [Bool.or_eq_true, decide_eq_true_eq, decide_eq_true_eq]
      exact UInt32.le_total a.index b.index) streams
  simpa only [decide_eq_true_eq] using hsorted

lemma sortStreams_of_sorted {streams : List StreamInfo}
    (h : streams.Pairwise fun s t => s.index ≤ t.index) : sortStreams streams = streams := by
  refine List.mergeSort_of_pairwise ?_
  simpa using h

lemma sorted_ensureStream {streams : List StreamInfo} (index : UInt32) (params : CodecParameters)
    (h : streams.Pairwise fun s t => s.index ≤ t.index) :
    (ensureStream streams index params).Pairwise fun s t => s.index ≤ t.index := by
  rw [ensureStream]
  split_ifs
  · exact sorted_sortStreams _
  · exact h

lemma sorted_trackPackets {T : Type} {k : MediaKind T} {tsMs extraNano : Int64}
    (tracks : List (UInt8 × T)) {b : Bridge} (h : b.Sorted) :
    (trackPackets k tsMs extraNano tracks b).2.Sorted := by
  induction tracks generalizing b with
  | nil => exact h
  | cons track tracks ih => exact ih (sorted_ensureStream _ _ h)

/-- Whatever an event is, the streams stay in order. -/
lemma Bridge.Sorted.convert {b : Bridge} (h : b.Sorted) (ev : MediaSourceEvent) :
    ((Bridge.convert ev).run b).2.Sorted := by
  have hmedia : ∀ {T : Type} (k : MediaKind T) (tsMs : Int64) (tag : T) {b : Bridge}, b.Sorted →
      ((mediaPackets k tsMs tag).run b).2.Sorted := by
    intro T k tsMs tag b hb
    rw [mediaPackets]
    split_ifs
    · cases k.demuxTracks tag with
      | error e => exact hb
      | ok tracks => exact sorted_trackPackets tracks hb
    · exact sorted_trackPackets _ hb
  have hat : ∀ timestamp, (b.at timestamp).Sorted := fun _ => h
  cases ev with
  | audio timestamp tag =>
      rw [Bridge.run_convert_audio]
      exact hmedia audioMedia _ tag (hat timestamp)
  | video timestamp tag =>
      rw [Bridge.run_convert_video]
      exact hmedia videoMedia _ tag (hat timestamp)
  | metadata value => exact h
  | skip => exact h
  | finish => exact h

/-- The source that probing ends with. -/
def ProbeState.source (state : ProbeState) (session : S) : PacketSource S where
  toBridge := state.toBridge
  session := session
  buffered := state.buffered
  ended := state.ended
  pending := []

variable {src}

lemma ProbeState.packets_keep (state : ProbeState) (ev : MediaSourceEvent) (packets : List Packet)
    (b : Bridge) : (state.keep ev packets b).buffered.map BufferedPacket.packet
      = state.buffered.map BufferedPacket.packet ++ packets := by
  simp [keep, Function.comp_def]

/-- Wherever probing stops before the end, the source has what was buffered and what is to come. -/
lemma ProbeState.source_delivers {evs : List MediaSourceEvent} {state : ProbeState} {s t t' : S}
    {later : List Packet} {b : Bridge} (hopen : state.ended = false) (hgives : src.Gives s evs t)
    (hend : src.nextMedia t = (.ok .finish, t'))
    (hrun : (Bridge.convertAll evs).run state.toBridge = (.ok later, b)) :
    (state.source s).Delivers src (state.buffered.map BufferedPacket.packet ++ later) b :=
  .inr ⟨hopen, evs, t, t', later, hgives, hend, hrun,
    by rw [PacketSource.queued, ProbeState.source, List.append_nil]⟩

/-- However many rounds it goes, probing keeps every packet. -/
lemma probeLoop_delivers {evs : List MediaSourceEvent} {state : ProbeState} {s t t' : S}
    {later : List Packet} {b : Bridge} (rounds : ℕ) (haveAudio haveVideo : Bool)
    (hopen : state.ended = false) (hsorted : state.toBridge.Sorted) (hgives : src.Gives s evs t)
    (hend : src.nextMedia t = (.ok .finish, t'))
    (hrun : (Bridge.convertAll evs).run state.toBridge = (.ok later, b)) :
    ∃ state' s', probeLoop src rounds haveAudio haveVideo state s = (.ok state', s') ∧
      state'.toBridge.Sorted ∧
      (state'.source s').Delivers src (state.buffered.map BufferedPacket.packet ++ later) b := by
  induction rounds generalizing state s evs later haveAudio haveVideo with
  | zero => exact ⟨state, s, rfl, hsorted, ProbeState.source_delivers hopen hgives hend hrun⟩
  | succ rounds ih =>
      by_cases hboth : (haveAudio && haveVideo) = true
      · exact ⟨state, s, if_pos hboth, hsorted, ProbeState.source_delivers hopen hgives hend hrun⟩
      · rw [probeLoop, if_neg hboth]
        cases hgives with
        | done =>
            cases hrun
            rw [hend, List.append_nil]
            exact ⟨_, _, rfl, hsorted, .inl ⟨rfl, (List.append_nil _).symm, rfl⟩⟩
        | @more _ s' _ ev evs hnext hev hgives =>
            obtain ⟨first, rest, b₁, hfirst, hrest, rfl⟩ := Bridge.convertAll_cons hrun
            have hsorted' : (state.keep ev first b₁).toBridge.Sorted := by
              have hconvert := hsorted.convert ev
              rwa [hfirst] at hconvert
            rw [hnext]
            simp only [if_neg (mt MediaSourceEvent.isFinish_iff.mp hev), hfirst]
            rw [← List.append_assoc, ← state.packets_keep ev first b₁]
            exact ih _ _ hopen hsorted' hgives hrest

/-- A source that is probed is built, and delivers what the events hold. -/
lemma fromSessionWithProbe_delivers {evs : List MediaSourceEvent} {s t t' : S}
    {packets : List Packet} {b : Bridge} (hgives : src.Gives s evs t)
    (hend : src.nextMedia t = (.ok .finish, t'))
    (hrun : (Bridge.convertAll evs).run .new = (.ok packets, b)) :
    ∃ a, PacketSource.fromSessionWithProbe src s = .ok a ∧ a.Delivers src packets b := by
  have hsorted : Bridge.new.Sorted := List.Pairwise.nil
  have hopen : (⟨.new, [], false⟩ : ProbeState).ended = false := rfl
  obtain ⟨state, s', hloop, hprobed, hdelivers⟩ :=
    probeLoop_delivers probeLimit false false hopen hsorted hgives hend hrun
  refine ⟨state.source s', ?_, hdelivers⟩
  rw [PacketSource.fromSessionWithProbe, probeSource, hloop]
  simp only [sortStreams_of_sorted hprobed]
  rfl

/-- The source is built, and every number of calls to it and to the source that was not probed
returns the same: packets, and then ends; and then both have found the same. -/
def ProbesUnseen (src : MediaSource S) (s : S) : Prop :=
  ∃ (probed : PacketSource S) (packets : List Packet),
    PacketSource.fromSessionWithProbe src s = .ok probed ∧ ∀ n,
      ((PacketSource.fromSession s).calls src n).1
        = (packets.map Except.ok ++ List.replicate n (Except.error CoreError.eof)).take n ∧
      (probed.calls src n).1 = ((PacketSource.fromSession s).calls src n).1 ∧
      (packets.length < n →
        (probed.calls src n).2.streams = ((PacketSource.fromSession s).calls src n).2.streams ∧
        (probed.calls src n).2.metadata = ((PacketSource.fromSession s).calls src n).2.metadata)

/-- Events that convert are delivered the same with and without probing. -/
lemma probesUnseen {evs : List MediaSourceEvent} {s t t' : S} (hgives : src.Gives s evs t)
    (hend : src.nextMedia t = (.ok .finish, t')) (hconverts : ∀ ev ∈ evs, ev.Converts) :
    ProbesUnseen src s := by
  obtain ⟨packets, b, hrun⟩ := convertAll_ok hconverts .new
  obtain ⟨probed, hprobe, hprobed⟩ := fromSessionWithProbe_delivers hgives hend hrun
  have hplain : (PacketSource.fromSession s).Delivers src packets b :=
    .inr ⟨rfl, evs, t, t', packets, hgives, hend, hrun, rfl⟩
  refine ⟨probed, packets, hprobe, fun n => ?_⟩
  obtain ⟨houts, hbridge⟩ := hplain.calls n
  obtain ⟨houts', hbridge'⟩ := hprobed.calls n
  refine ⟨houts, houts'.trans houts.symm, fun hlt => ?_⟩
  rw [hbridge hlt, hbridge' hlt]
  exact ⟨rfl, rfl⟩

/-- **Probing**: a session or a player whose events end cleanly, and whose multitrack messages can all
be taken apart, is delivered the same whether it was probed or not: the same packets in the same
order, then the end, and then the same streams and the same metadata. -/
theorem probing_invisible :
    (∀ (evs : List MediaSourceEvent) (s t t' : RtmpSession), RtmpSession.media.Gives s evs t →
      RtmpSession.media.nextMedia t = (.ok .finish, t') → (∀ ev ∈ evs, ev.Converts) →
      ProbesUnseen RtmpSession.media s) ∧
    ∀ (evs : List MediaSourceEvent) (s t t' : RtmpPlayer), RtmpPlayer.media.Gives s evs t →
      RtmpPlayer.media.nextMedia t = (.ok .finish, t') → (∀ ev ∈ evs, ev.Converts) →
      ProbesUnseen RtmpPlayer.media s :=
  ⟨fun _ _ _ _ hgives hend hconverts => probesUnseen hgives hend hconverts,
    fun _ _ _ _ hgives hend hconverts => probesUnseen hgives hend hconverts⟩

/-- A session and a player with an AAC message in their queue and nothing after it. -/
theorem probing_invisible_aac :
    let msg : Message := ⟨msgAudio, 1, 40, [0xAF, 1, 7]⟩
    let session : RtmpSession := .opened (.new []) .new ⟨"live", "key", "live", 1, []⟩
    let player : RtmpPlayer := .opened (.new []) .new ⟨1, "rtmp://h/live", "key", false, .ofNat 4⟩
    ProbesUnseen RtmpSession.media (session.withQueue [msg]) ∧
      ProbesUnseen RtmpPlayer.media (player.withQueue [msg]) := by
  intro msg session player
  obtain ⟨hsession, hplayer⟩ := probing_invisible
  let tag : AudioTag := ⟨10, 3, true, true, some 1, none, none, [7], [], none⟩
  have hconverts : ∀ ev ∈ [MediaSourceEvent.audio 40 tag], ev.Converts :=
    List.forall_mem_singleton.mpr nofun
  constructor
  · have hitem : RtmpSession.dispatcher.round (session.withQueue [msg])
        = (some (.ok (some (.audio 40 tag))), session.withQueue []) := rfl
    have hend : RtmpSession.dispatcher.round (session.withQueue [])
        = (some (.ok none), session.withQueue []) := rfl
    exact hsession _ _ _ _ (.more (RtmpSession.dispatcher.nextMedia_item hitem) nofun .done)
      (RtmpSession.dispatcher.nextMedia_finish hend) hconverts
  · have hitem : RtmpPlayer.dispatcher.round (player.withQueue [msg])
        = (some (.ok (some (.audio 40 tag))), player.withQueue []) := rfl
    have hend : RtmpPlayer.dispatcher.round (player.withQueue [])
        = (some (.ok none), (player.withQueue []).close) := rfl
    exact hplayer _ _ _ _ (.more (RtmpPlayer.dispatcher.nextMedia_item hitem) nofun .done)
      (RtmpPlayer.dispatcher.nextMedia_finish hend) hconverts

/-- **Probing that is seen**: a video message whose only track is too short for its composition
time, and nothing after it.  A source that is probed is not built; one that is not reports the
failure once and goes on to the end. -/
theorem probing_seen_truncated :
    let msg : Message := ⟨msgVideo, 1, 40, [0x96, 0x01, 0x68, 0x76, 0x63, 0x31, 0x00, 0xAA, 0xBB]⟩
    let session : RtmpSession := .opened (.new []) .new ⟨"live", "key", "live", 1, []⟩
    let tag : VideoTag :=
      ⟨1, 0, none, 0, [], some 1, some fourccHevc, [], some ⟨0, [⟨none, 0, [0xAA, 0xBB]⟩]⟩⟩
    RtmpSession.media.Gives (session.withQueue [msg]) [.video 40 tag] (session.withQueue []) ∧
      RtmpSession.media.nextMedia (session.withQueue []) = (.ok .finish, session.withQueue []) ∧
      ∃ e, PacketSource.fromSessionWithProbe RtmpSession.media (session.withQueue [msg]) = .error e ∧
        ((PacketSource.fromSession (session.withQueue [msg])).calls RtmpSession.media 2).1
          = [.error (rtmpToCoreErr e), .error .eof] ∧
        ¬ ProbesUnseen RtmpSession.media (session.withQueue [msg]) := by
  intro msg session tag
  have hitem : RtmpSession.dispatcher.round (session.withQueue [msg])
      = (some (.ok (some (.video 40 tag))), session.withQueue []) := rfl
  have hidle : RtmpSession.dispatcher.round (session.withQueue [])
      = (some (.ok none), session.withQueue []) := rfl
  have hvideo : RtmpSession.media.nextMedia (session.withQueue [msg])
      = (.ok (.video 40 tag), session.withQueue []) := RtmpSession.dispatcher.nextMedia_item hitem
  have hend : RtmpSession.media.nextMedia (session.withQueue [])
      = (.ok .finish, session.withQueue []) := RtmpSession.dispatcher.nextMedia_finish hidle
  -- the track breaks off within its composition time
  obtain ⟨e, hdemux⟩ : ∃ e, tag.demuxTracks = .error e := by
    have hnone : tag.demuxTracks.toOption = none := by decide +kernel
    cases hdemux : tag.demuxTracks with
    | error e => exact ⟨e, rfl⟩
    | ok tracks =>
        rw [hdemux] at hnone
        cases hnone
  have hfails : ((Bridge.convert (.video 40 tag)).run .new).1 = .error e := by
    rw [Bridge.run_convert_video, mediaPackets,
      if_pos (show videoMedia.isMultitrack tag = true from rfl),
      show videoMedia.demuxTracks tag = .error e from hdemux]
    rfl
  rcases hconvert : (Bridge.convert (.video 40 tag)).run .new with ⟨out, b⟩
  rw [hconvert] at hfails
  obtain rfl : out = .error e := hfails
  have hprobe : PacketSource.fromSessionWithProbe RtmpSession.media (session.withQueue [msg])
      = .error e := by
    rw [PacketSource.fromSessionWithProbe, probeSource, probeLimit, probeLoop, if_neg (by decide),
      hvideo]
    simp only [MediaSourceEvent.isFinish, hconvert, Bool.false_eq_true, if_false]
  -- the first call meets the failure, the second one the end
  have hfirst : PacketSource.nextPacket RtmpSession.media
    (PacketSource.fromSession (session.withQueue [msg]))
      = (.error (rtmpToCoreErr e), ⟨b, session.withQueue [], [], false, []⟩) := by
    rw [PacketSource.nextPacket, PacketSource.fromSession]
    simp only [Bool.false_eq_true, if_false]
    rw [PacketSource.steadyNext_eq, hvideo]
    simp only [MediaSourceEvent.isFinish, hconvert, Bool.false_eq_true, if_false]
  have hsecond : (PacketSource.nextPacket RtmpSession.media ⟨b, session.withQueue [], [], false, []⟩).1
      = .error .eof := by
    rw [PacketSource.nextPacket]
    simp only [Bool.false_eq_true, if_false]
    rw [PacketSource.steadyNext_eq, hend]
    simp only [MediaSourceEvent.isFinish, if_true]
  refine ⟨.more hvideo (fun h => by cases h) .done, hend, e, hprobe, ?_, ?_⟩
  · rw [PacketSource.calls, PacketSource.calls, hfirst, hsecond]
    rfl
  · rintro ⟨probed, -, hbuilt, -⟩
    rw [hprobe] at hbuilt
    cases hbuilt

end Rtmp
