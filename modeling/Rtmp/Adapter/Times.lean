import Rtmp.Adapter.Timeline
import Rtmp.Adapter.Heard
import Rtmp.Session.Aggregates

/-!
Whether the times of packets are the exact ones.

* `Moments`: the values that are computed for the times of one packet, as words and as integers;
* `MediaSourceEvent.Exact`: after the given messages, the words computed for a message are the integers;
* `MediaSourceEvent.Representable`: the integers fit 64 bits, where that is not clear;
* `PacketSource.packet_times` (**times**): in the messages of a source, at any number of calls, all
  words are exact if and only if all integers are representable, and then all packets that were
  returned have exact times;
* `not_exact_rolling`: not every session has exact times.
-/

namespace Rtmp

open Flv Signed

/-! ### One packet -/

/-- What is computed for the times of a packet: the media time in nanoseconds, the composition time, the
sum of these, the offset, and the sum of everything. -/
structure Moments (α : Type) where
  scaled : α
  composition : α
  composed : α
  offset : α
  presentation : α

namespace Moments

/-- The computation, from a media time and a composition time in units of `unit` nanoseconds. -/
def compute {α : Type} [Add α] [Mul α] (unit time cts nano extra : α) : Moments α where
  scaled := time * unit
  composition := cts * unit
  composed := time * unit + cts * unit
  offset := nano + extra
  presentation := time * unit + cts * unit + (nano + extra)

/-- The words as integers. -/
def toInt (m : Moments Int64) : Moments ℤ where
  scaled := m.scaled.toInt
  composition := m.composition.toInt
  composed := m.composed.toInt
  offset := m.offset.toInt
  presentation := m.presentation.toInt

/-- The decode time: audio has none of its own. -/
def decode {α : Type} (isAudio : Bool) (m : Moments α) : α :=
  if isAudio then m.presentation else m.scaled

/-- The sums with the media time fit 64 bits. -/
def Representable (m : Moments ℤ) : Prop := Fits m.scaled ∧ Fits m.composed ∧ Fits m.presentation

/-- The exact moments. -/
def exact (time : ℤ) (cts : Int32) (nano extra : UInt32) : Moments ℤ :=
  compute 1000000 time cts.toInt nano.toNat extra.toNat

/-- The computed ones. -/
def computed (tsMs : Int64) (cts : Int32) (nano extra : UInt32) : Moments Int64 :=
  compute rtmpMsToNs tsMs cts.toInt64 nano.toUInt64.toInt64 extra.toUInt64.toInt64

/-- The words are the integers, wherever these fit; composition times and offsets do. -/
theorem toInt_computed_iff (time : ℤ) (cts : Int32) (nano extra : UInt32) :
    (computed (.ofInt time) cts nano extra).toInt = exact time cts nano extra ↔
      (exact time cts nano extra).Representable := by
  have hunit : rtmpMsToNs = Int64.ofInt 1000000 := rfl
  have hcts : Fits (cts.toInt * 1000000) := by
    have hlo := cts.le_toInt
    have hhi := cts.toInt_lt
    constructor <;> omega
  have hoffset : Fits ((nano.toNat : ℤ) + extra.toNat) := by
    have hnano := nano.toNat_lt
    have hextra := extra.toNat_lt
    constructor <;> omega
  simp only [computed, exact, compute, toInt, hunit, toInt64_eq_ofInt, toInt64_toUInt64,
    ← Int64.ofInt_mul, ← Int64.ofInt_add, Moments.mk.injEq, toInt_ofInt_iff, hcts, hoffset, true_and,
    Representable]

end Moments

/-- Where the times of a packet come from, in one kind of tags. -/
structure MediaKind.Clock {T : Type} (k : MediaKind T) where
  cts : T → Int32
  times : ∀ tsMs tag index extra,
    let m := Moments.computed tsMs (cts tag) (k.timestampOffsetNano tag) extra
    (k.toPacketAt tsMs tag index extra.toUInt64.toInt64).pts = some m.presentation ∧
      (k.toPacketAt tsMs tag index extra.toUInt64.toInt64).dts = some (m.decode k.isAudio)

def audioClock : audioMedia.Clock where
  cts _ := 0
  times tsMs tag index extra := by
    have hzero : (0 : Int32).toInt64 * rtmpMsToNs = 0 := rfl
    have hpts : (Moments.computed tsMs 0 (audioMedia.timestampOffsetNano tag) extra).presentation
        = tsMs * rtmpMsToNs
          + (tag.timestampOffsetNano.toUInt64.toInt64 + extra.toUInt64.toInt64) := by
      rw [Moments.computed, Moments.compute]
      simp only [hzero, Int64.add_zero]
      rfl
    exact ⟨congrArg some hpts.symm, congrArg some hpts.symm⟩

/-- Whether the composition time of a video tag counts. -/
def Flv.VideoTag.hasCts (tag : VideoTag) : Bool :=
  tag.codecId = videoCodecAvc || (tag.fourcc.isSome && tag.compositionTime ≠ 0)

def videoClock : videoMedia.Clock where
  cts tag := if tag.hasCts then tag.compositionTime else 0
  times tsMs tag index extra := by
    refine ⟨?_, rfl⟩
    by_cases hcts : tag.hasCts
    · simp only [if_pos hcts]
      have hif : (if tag.hasCts then tag.compositionTime.toInt64 * rtmpMsToNs else 0)
          = tag.compositionTime.toInt64 * rtmpMsToNs := if_pos hcts
      exact congrArg (fun cts => some (tsMs * rtmpMsToNs + cts
        + (tag.timestampOffsetNano.toUInt64.toInt64 + extra.toUInt64.toInt64))) hif
    · simp only [if_neg hcts]
      have hif : (if tag.hasCts then tag.compositionTime.toInt64 * rtmpMsToNs else 0)
          = (0 : Int32).toInt64 * rtmpMsToNs := if_neg hcts
      exact congrArg (fun cts => some (tsMs * rtmpMsToNs + cts
        + (tag.timestampOffsetNano.toUInt64.toInt64 + extra.toUInt64.toInt64))) hif

/-! ### One message -/

section Media

variable {T : Type} {k : MediaKind T} (c : k.Clock)

/-- The tags of a message, and the offset that all of them have. -/
def MediaKind.parts (k : MediaKind T) (tag : T) : List T × UInt32 :=
  if k.isMultitrack tag then
    (((k.demuxTracks tag).toOption.getD []).map Prod.snd, k.timestampOffsetNano tag)
  else ([tag], 0)

/-- The packet has the times that were computed. -/
def Moments.AreTimes (isAudio : Bool) (m : Moments Int64) (packet : Packet) : Prop :=
  packet.pts = some m.presentation ∧ packet.dts = some (m.decode isAudio)

namespace MediaKind.Clock

/-- What is computed for the packets of a message. -/
def computed (tsMs : Int64) (tag : T) : List (Moments Int64) :=
  (k.parts tag).1.map fun part =>
    .computed tsMs (c.cts part) (k.timestampOffsetNano part) (k.parts tag).2

/-- The exact moments of a message. -/
def exact (time : ℤ) (tag : T) : List (Moments ℤ) :=
  (k.parts tag).1.map fun part =>
    .exact time (c.cts part) (k.timestampOffsetNano part) (k.parts tag).2

/-- The words are the integers, message by message. -/
lemma map_toInt_computed_iff (time : ℤ) (tag : T) :
    (c.computed (.ofInt time) tag).map Moments.toInt = c.exact time tag ↔
      ∀ m ∈ c.exact time tag, m.Representable := by
  simp only [computed, exact, List.map_map, List.map_inj_left, List.forall_mem_map,
    Function.comp_apply, Moments.toInt_computed_iff]

/-- Every packet of the tracks has the times computed for one of them. -/
lemma times_trackPackets (tsMs : Int64) (extra : UInt32) (tracks : List (UInt8 × T)) (b : Bridge) :
    ∀ packet ∈ (trackPackets k tsMs extra.toUInt64.toInt64 tracks b).1, ∃ track ∈ tracks,
      Moments.AreTimes k.isAudio
        (.computed tsMs (c.cts track.2) (k.timestampOffsetNano track.2) extra) packet := by
  intro packet hpacket
  induction tracks generalizing b with
  | nil => cases hpacket
  | cons track tracks ih =>
      rw [trackPackets] at hpacket
      rcases List.mem_cons.mp hpacket with rfl | hlater
      · exact ⟨track, List.mem_cons_self, c.times tsMs track.2 _ extra⟩
      · obtain ⟨later, hmem, htimes⟩ := ih _ hlater
        exact ⟨later, List.mem_cons_of_mem _ hmem, htimes⟩

/-- So does every packet of a message. -/
lemma times_mediaPackets {tsMs : Int64} {tag : T} {b b' : Bridge} {packets : List Packet}
    (h : (mediaPackets k tsMs tag).run b = (.ok packets, b')) :
    ∀ packet ∈ packets, ∃ m ∈ c.computed tsMs tag, m.AreTimes k.isAudio packet := by
  intro packet hpacket
  by_cases hmulti : k.isMultitrack tag
  · rw [mediaPackets, if_pos hmulti] at h
    rcases hdemux : k.demuxTracks tag with e | tracks
    · rw [hdemux] at h
      cases h
    · rw [hdemux] at h
      cases h
      obtain ⟨track, htrack, htimes⟩ :=
        c.times_trackPackets tsMs (k.timestampOffsetNano tag) tracks b packet hpacket
      refine ⟨_, ?_, htimes⟩
      rw [computed, MediaKind.parts, if_pos hmulti, hdemux]
      exact List.mem_map.mpr ⟨track.2, List.mem_map_of_mem htrack, rfl⟩
  · rw [mediaPackets, if_neg hmulti] at h
    cases h
    obtain ⟨track, htrack, htimes⟩ := c.times_trackPackets tsMs 0 [(0, tag)] b packet hpacket
    rw [List.mem_singleton.mp htrack] at htimes
    refine ⟨_, ?_, htimes⟩
    rw [computed, MediaKind.parts, if_neg hmulti]
    exact List.mem_singleton_self _

end MediaKind.Clock

/-- The tracks of a message do not move the timeline. -/
lemma ts_trackPackets (k : MediaKind T) (tsMs extraNano : Int64) (tracks : List (UInt8 × T))
    (b : Bridge) :
    (trackPackets k tsMs extraNano tracks b).2.ts = b.ts := by
  induction tracks generalizing b with
  | nil => rfl
  | cons track tracks ih =>
      rw [trackPackets]
      exact ih _

lemma ts_mediaPackets (k : MediaKind T) (tsMs : Int64) (tag : T) (b : Bridge) :
    ((mediaPackets k tsMs tag).run b).2.ts = b.ts := by
  rw [mediaPackets]
  split_ifs
  · rcases k.demuxTracks tag with e | tracks
    · rfl
    · exact ts_trackPackets k tsMs _ tracks b
  · exact ts_trackPackets k tsMs 0 [(0, tag)] b

end Media

namespace MediaSourceEvent

/-- The timestamp of a media message. -/
def stamp : MediaSourceEvent → Option UInt32
  | audio timestamp _ => some timestamp
  | video timestamp _ => some timestamp
  | _ => none

/-- What is computed for the packets of an event. -/
def computed (tsMs : Int64) : MediaSourceEvent → List (Moments Int64)
  | audio _ tag => audioClock.computed tsMs tag
  | video _ tag => videoClock.computed tsMs tag
  | _ => []

/-- The exact moments of an event. -/
def exact (time : ℤ) : MediaSourceEvent → List (Moments ℤ)
  | audio _ tag => audioClock.exact time tag
  | video _ tag => videoClock.exact time tag
  | _ => []

lemma map_toInt_computed_iff (time : ℤ) (ev : MediaSourceEvent) :
    (ev.computed (.ofInt time)).map Moments.toInt = ev.exact time ↔
      ∀ m ∈ ev.exact time, m.Representable := by
  cases ev with
  | audio timestamp tag => exact audioClock.map_toInt_computed_iff time tag
  | video timestamp tag => exact videoClock.map_toInt_computed_iff time tag
  | _ => exact iff_of_true rfl nofun

/-- The timestamps of events in a row. -/
def stamps (evs : List MediaSourceEvent) : List UInt32 := evs.filterMap stamp

/-- The exact time of an event after the given ones. -/
def time (before : List MediaSourceEvent) (ev : MediaSourceEvent) : ℤ :=
  mediaTime (stamps (before ++ [ev]))

/-- The time that is computed for it. -/
def tsMs (before : List MediaSourceEvent) (ev : MediaSourceEvent) : Int64 :=
  ((TimestampUnwrapper.after (stamps before)).unwrapMs (ev.stamp.getD 0)).1

/-- Everything that is computed for the event after the given ones is exact. -/
def Exact (before : List MediaSourceEvent) (ev : MediaSourceEvent) : Prop :=
  ev.stamp.isSome → (tsMs before ev).toInt = time before ev ∧
    (ev.computed (tsMs before ev)).map Moments.toInt = ev.exact (time before ev)

/-- The time of the event after the given ones fits 64 bits, as milliseconds and as nanoseconds, with
the composition time and with the offset of each packet. -/
def Representable (before : List MediaSourceEvent) (ev : MediaSourceEvent) : Prop :=
  ev.stamp.isSome → Fits (time before ev) ∧ ∀ m ∈ ev.exact (time before ev), m.Representable

lemma stamps_snoc {before : List MediaSourceEvent} {ev : MediaSourceEvent} {raw : UInt32}
    (h : ev.stamp = some raw) : stamps (before ++ [ev]) = stamps before ++ [raw] := by
  rw [stamps, List.filterMap_append, List.filterMap_cons_some h, List.filterMap_nil, stamps]

/-- The computed time is the exact one, cut to 64 bits. -/
lemma tsMs_eq {before : List MediaSourceEvent} {ev : MediaSourceEvent} (h : ev.stamp.isSome) :
    tsMs before ev = Int64.ofInt (time before ev) := by
  obtain ⟨raw, hraw⟩ := Option.isSome_iff_exists.mp h
  rw [tsMs, time, stamps_snoc hraw, hraw, Option.getD_some, TimestampUnwrapper.unwrapMs_after]

/-- **One message**: everything is exact if and only if everything fits. -/
theorem exact_iff (before : List MediaSourceEvent) (ev : MediaSourceEvent) :
    Exact before ev ↔ Representable before ev := by
  refine imp_congr_right fun h => ?_
  rw [tsMs_eq h, toInt_ofInt_iff, map_toInt_computed_iff]

/-- The packet belongs to one of the events, and has the times that are computed for it. -/
def TimedBy (evs : List MediaSourceEvent) (packet : Packet) : Prop :=
  ∃ before ev rest, evs = before ++ ev :: rest ∧
    ∃ m ∈ ev.computed (tsMs before ev), m.AreTimes ev.isAudio packet

lemma TimedBy.append {evs : List MediaSourceEvent} {packet : Packet} (h : TimedBy evs packet)
    (more : List MediaSourceEvent) : TimedBy (evs ++ more) packet := by
  obtain ⟨before, ev, rest, rfl, htimes⟩ := h
  exact ⟨before, ev, rest ++ more, by rw [List.append_assoc, List.cons_append], htimes⟩

/-- An event moves the timeline of the bridge by its timestamp, and its packets have the times that are
computed for it. -/
lemma convert_timed {before : List MediaSourceEvent} {b b' : Bridge}
    (hts : b.ts = .after (stamps before)) {ev : MediaSourceEvent} {out : Except Error (List Packet)}
    (h : (Bridge.convert ev).run b = (out, b')) :
    b'.ts = .after (stamps (before ++ [ev])) ∧
      ∀ packets, out = .ok packets → ∀ packet ∈ packets, TimedBy (before ++ [ev]) packet := by
  have hmedia : ∀ {T : Type} {k : MediaKind T} (c : k.Clock) (raw : UInt32) (tag : T),
      ev.stamp = some raw → ev.isAudio = k.isAudio → (∀ ms, ev.computed ms = c.computed ms tag) →
      (mediaPackets k (b.ts.unwrapMs raw).1 tag).run (b.at raw) = (out, b') →
      b'.ts = .after (stamps (before ++ [ev])) ∧
        ∀ packets, out = .ok packets → ∀ packet ∈ packets, TimedBy (before ++ [ev]) packet := by
    intro T k c raw tag hstamp haudio hcomputed hrun
    constructor
    · have hkept := ts_mediaPackets k (b.ts.unwrapMs raw).1 tag (b.at raw)
      rw [hrun] at hkept
      rw [hkept, stamps_snoc hstamp, TimestampUnwrapper.after_snoc, ← hts]
      rfl
    · rintro packets rfl packet hpacket
      obtain ⟨m, hm, htimes⟩ := c.times_mediaPackets hrun packet hpacket
      refine ⟨before, ev, [], rfl, m, ?_, haudio ▸ htimes⟩
      rw [hcomputed, tsMs, hstamp, Option.getD_some, ← hts]
      exact hm
  have hquiet : ev.stamp = none → stamps (before ++ [ev]) = stamps before := by
    intro hstamp
    rw [stamps, List.filterMap_append, List.filterMap_cons_none hstamp, List.filterMap_nil,
      List.append_nil, stamps]
  cases ev with
  | audio timestamp tag => exact hmedia audioClock timestamp tag rfl rfl (fun _ => rfl) h
  | video timestamp tag => exact hmedia videoClock timestamp tag rfl rfl (fun _ => rfl) h
  | metadata value =>
      cases h
      exact ⟨hts.trans (by rw [hquiet rfl]), fun packets heq => by cases heq; exact nofun⟩
  | skip =>
      cases h
      exact ⟨hts.trans (by rw [hquiet rfl]), fun packets heq => by cases heq; exact nofun⟩
  | finish =>
      cases h
      exact ⟨hts.trans (by rw [hquiet rfl]), fun packets heq => by cases heq; exact nofun⟩

end MediaSourceEvent

/-! ### A source -/

open MediaSourceEvent

namespace PacketSource

variable {S : Type}

variable {src : MediaSource S}

/-- Events move the timeline by their timestamps, and all their packets have the times that are computed
for one of them. -/
lemma produced_timed (evs : List MediaSourceEvent) :
    (Bridge.after evs).ts = .after (stamps evs) ∧
      ∀ packet ∈ Bridge.produced evs, TimedBy evs packet := by
  induction evs using List.reverseRecOn with
  | nil => exact ⟨rfl, nofun⟩
  | append_singleton evs ev ih =>
      obtain ⟨hts, hpackets⟩ := ih
      rcases hrun : (Bridge.convert ev).run (.after evs) with ⟨out, b⟩
      obtain ⟨hafter, hproduced⟩ := Bridge.feed_snoc_of_run hrun
      obtain ⟨hmoved, htimed⟩ := convert_timed hts hrun
      rw [hafter, hproduced]
      refine ⟨hmoved, fun packet hpacket => ?_⟩
      rcases List.mem_append.mp hpacket with hold | hnew
      · exact (hpackets packet hold).append [ev]
      · cases out with
        | error e => cases hnew
        | ok packets => exact htimed packets rfl packet hnew

/-- The packet belongs to one of the events, and its times are exact. -/
def ExactlyTimed (evs : List MediaSourceEvent) (packet : Packet) : Prop :=
  ∃ before ev rest, evs = before ++ ev :: rest ∧ ∃ m ∈ ev.exact (time before ev),
    packet.pts.map Int64.toInt = some m.presentation ∧
      packet.dts.map Int64.toInt = some (m.decode ev.isAudio)

/-- Where what is computed is exact, packets have exact times. -/
lemma exactlyTimed {evs : List MediaSourceEvent} {packet : Packet} (h : TimedBy evs packet)
    (hexact : ∀ before ev rest, evs = before ++ ev :: rest → Exact before ev) :
    ExactlyTimed evs packet := by
  obtain ⟨before, ev, rest, hevs, m, hm, hpts, hdts⟩ := h
  have hstamp : ev.stamp.isSome := by
    cases ev with
    | audio timestamp tag => rfl
    | video timestamp tag => rfl
    | _ => cases hm
  obtain ⟨-, hmoments⟩ := hexact before ev rest hevs hstamp
  refine ⟨before, ev, rest, hevs, m.toInt, ?_, ?_, ?_⟩
  · rw [← hmoments]
    exact List.mem_map_of_mem hm
  · rw [hpts]
    rfl
  · rw [hdts, Option.map_some, Option.some.injEq]
    rw [Moments.decode, Moments.decode]
    split_ifs <;> rfl

/-- **Times**: let a packet source, around a session or a player, probed or not, be called any number of
times.  Everything that was computed for the messages it heard is exact if and only if the exact time
of each of them fits 64 bits, alone and with the composition time and the offset of each of its
packets; and then every packet that was returned has exact times.  The answers of the session are kept
by a source `b` that does the same as `a`. -/
theorem packet_times {s : S} {a : PacketSource S} (h : Opened src s a) :
    (∃ b : PacketSource (S × AnswerLog), Opened src.logged (s, []) b ∧ b.forget = a) ∧
    ∀ b : PacketSource (S × AnswerLog), Opened src.logged (s, []) b → b.forget = a → ∀ n,
      calls src n a = ((calls src.logged n b).1, (calls src.logged n b).2.forget) ∧
      ((∀ before ev rest, (calls src.logged n b).2.heard = before ++ ev :: rest → Exact before ev) ↔
        ∀ before ev rest, (calls src.logged n b).2.heard = before ++ ev :: rest →
          MediaSourceEvent.Representable before ev) ∧
      ((∀ before ev rest, (calls src.logged n b).2.heard = before ++ ev :: rest →
          MediaSourceEvent.Representable before ev) →
        ∀ packet, .ok packet ∈ (calls src n a).1 →
          ExactlyTimed (calls src.logged n b).2.heard packet) := by
  have hiff : ∀ evs : List MediaSourceEvent,
      (∀ before ev rest, evs = before ++ ev :: rest → Exact before ev) ↔
        ∀ before ev rest, evs = before ++ ev :: rest → MediaSourceEvent.Representable before ev :=
    fun evs => forall_congr' fun before => forall_congr' fun ev => forall_congr' fun _ =>
      imp_congr_right fun _ => exact_iff before ev
  refine ⟨h.logged, ?_⟩
  rintro b hb rfl n
  refine ⟨calls_logged _ n b, hiff _, fun hfits packet hpacket => ?_⟩
  rw [calls_logged] at hpacket
  have hsent : packet ∈ packetsOf (calls src.logged n b).1 := List.mem_filterMap.mpr ⟨_, hpacket, rfl⟩
  have hproduced : packet ∈ Bridge.produced (calls src.logged n b).2.heard := by
    rw [← (hb.calls_fed n).packets]
    exact List.mem_append_left _ hsent
  exact exactlyTimed ((produced_timed _).2 packet hproduced) ((hiff _).mpr hfits)

/-! ### A long session -/

/-- Calls hear the events one by one, if each of them has one packet. -/
lemma heard_calls {evs : List MediaSourceEvent} {s t : S} (hgives : src.Gives s evs t)
    (hone : ∀ ev ∈ evs, ∀ b, ∃ packet b', (Bridge.convert ev).run b = (.ok [packet], b'))
    {a : PacketSource (S × AnswerLog)} (hs : a.session.1 = s) (hopen : a.ended = false)
    (hbuffered : a.buffered = []) (hpending : a.pending = []) :
    (calls src.logged evs.length a).2.heard = a.heard ++ evs := by
  induction hgives generalizing a with
  | done => exact (List.append_nil _).symm
  | @more s s' t ev evs hnext hev hrest ih =>
      obtain ⟨bridge, ⟨s₀, heardLog⟩, buffered, ended, pending⟩ := a
      obtain rfl : s₀ = s := hs
      obtain rfl : ended = false := hopen
      obtain rfl : buffered = [] := hbuffered
      obtain rfl : pending = [] := hpending
      obtain ⟨packet, b', hrun⟩ := hone ev List.mem_cons_self bridge
      have hlogged : src.logged.nextMedia (s₀, heardLog) = (.ok ev, (s', heardLog ++ [.ok ev])) := by
        rw [src.nextMedia_logged, hnext]
      have hcall : nextPacket src.logged ⟨bridge, (s₀, heardLog), [], false, []⟩
          = (.ok packet, ⟨b', (s', heardLog ++ [.ok ev]), [], false, []⟩) := by
        rw [nextPacket]
        dsimp only
        rw [if_neg Bool.false_ne_true, steadyNext_eq, hlogged]
        dsimp only
        rw [if_neg (mt MediaSourceEvent.isFinish_iff.mp hev), hrun]
        rfl
      rw [List.length_cons, calls, hcall]
      dsimp only
      rw [ih (fun ev h => hone ev (List.mem_cons_of_mem _ h)) rfl rfl rfl rfl]
      rw [heard, log, AnswerLog.events_append, List.append_assoc]
      rfl

end PacketSource

/-- Rounds that have packets give their events. -/
lemma Dispatcher.Returns.gives {τ α : Type} {d : Dispatcher τ α} {toMedia : α → MediaSourceEvent}
    {s t : Session τ} {items : List α} (h : d.Returns s (items.map fun item => Except.ok (some item)) t)
    (hmedia : ∀ item ∈ items, toMedia item ≠ .finish) :
    ∃ u, (d.media toMedia).Gives s (items.map toMedia) u := by
  generalize houts : (items.map fun item => (Except.ok (some item) : Except Error (Option α)))
    = outs at h
  induction h generalizing items with
  | @refl s =>
      rw [List.map_eq_nil_iff] at houts
      subst houts
      exact ⟨s, .done⟩
  | @silent s s' t outs hround _ ih =>
      obtain ⟨u, hgives⟩ := ih hmedia houts
      cases items with
      | nil => exact ⟨s, .done⟩
      | cons item items =>
          cases hgives with
          | more hnext hev hrest =>
              refine ⟨u, .more ?_ hev hrest⟩
              rw [Dispatcher.media] at hnext ⊢
              simpa only [d.next_of_none hround] using hnext
  | @result s s' t out outs hround _ ih =>
      cases items with
      | nil => cases houts
      | cons item items =>
          cases houts
          obtain ⟨hfirst, hrest⟩ := List.forall_mem_cons.mp hmedia
          obtain ⟨u, hgives⟩ := ih hrest rfl
          exact ⟨u, .more (d.nextMedia_item hround) hfirst hgives⟩

/-- The times of messages each of which is the longest step after the one before. -/
def rollingTime (i : ℕ) : ℤ := 2147483647 * i

/-- The audio messages at these times. -/
def rollingMessage (i : ℕ) : Message := ⟨msgAudio, 1, .ofInt (rollingTime i), [0x2F, 0]⟩

/-- A session with `n` of them on its wire. -/
def rollingSession (n : ℕ) : RtmpSession :=
  RtmpSession.receiving ((List.range n).map fun i => (csidAudio, rollingMessage i))

/-- What the source hears of such a message. -/
def rollingEvent (i : ℕ) : MediaSourceEvent :=
  .audio (.ofInt (rollingTime i)) ⟨2, 3, true, true, none, none, none, [0], [], none⟩

open MediaSourceEvent PacketSource

lemma stamps_rollingEvent (n : ℕ) :
    stamps ((List.range n).map rollingEvent) = TimestampUnwrapper.stamps rollingTime n := by
  rw [stamps, List.filterMap_map, TimestampUnwrapper.stamps]
  exact congrFun List.filterMap_eq_map _

/-- The session gives its source all the messages. -/
lemma gives_rolling (n : ℕ) :
    ∃ t, RtmpSession.media.Gives (rollingSession n) ((List.range n).map rollingEvent) t := by
  have hcontent : ∀ i, RtmpSession.contentPacket (rollingMessage i)
      = .ok (some (.audio (.ofInt (rollingTime i)) ⟨2, 3, true, true, none, none, none, [0], [],
        none⟩)) :=
    fun _ => rfl
  have hsend : ∀ p ∈ (List.range n).map fun i => (csidAudio, rollingMessage i), Sendable p := by
    intro p hp
    obtain ⟨i, -, rfl⟩ := List.mem_map.mp hp
    exact ⟨(by decide : 2 ≤ csidAudio.toNat ∧ csidAudio.toNat ≤ 65599), (by decide : 2 < 2 ^ 24)⟩
  have hdelivers := RtmpSession.delivers_receiving hsend
  rw [List.map_map] at hdelivers
  have hkinds : ∀ m ∈ Nest.items (((List.range n).map rollingMessage).map
      (Nest.item : Message → Grouping)), IsContent m := by
    intro m hm
    rw [Nest.items_item] at hm
    obtain ⟨i, -, rfl⟩ := List.mem_map.mp hm
    exact .inl rfl
  obtain ⟨t, hreturns, -⟩ := RtmpSession.returns_wire hkinds (s := rollingSession n) rfl rfl
    (RtmpSession.represents_item _) hdelivers
  rw [Nest.servedInTurn_item, RtmpSession.flatMap_results fun m hm => by
      obtain ⟨i, -, rfl⟩ := List.mem_map.mp hm
      rw [hcontent]
      exact nofun, List.map_map] at hreturns
  have hitems : (List.range n).map (RtmpSession.contentPacket ∘ rollingMessage)
      = ((List.range n).map fun i => StreamPacket.audio (.ofInt (rollingTime i))
          ⟨2, 3, true, true, none, none, none, [0], [], none⟩).map
        fun item => Except.ok (some item) := by
    rw [List.map_map]
    exact List.map_congr_left fun i _ => hcontent i
  rw [hitems] at hreturns
  have hopen : ∀ item ∈ (List.range n).map fun i => StreamPacket.audio (.ofInt (rollingTime i))
      ⟨2, 3, true, true, none, none, none, [0], [], none⟩, item.toMedia ≠ .finish := by
    intro item hitem
    obtain ⟨i, -, rfl⟩ := List.mem_map.mp hitem
    exact nofun
  obtain ⟨u, hgives⟩ := hreturns.gives hopen
  rw [List.map_map] at hgives
  exact ⟨u, hgives⟩

/-- The time of the last message. -/
lemma time_rolling (n : ℕ) :
    time ((List.range n).map rollingEvent) (rollingEvent n) = 2147483647 * n := by
  have hstep : ∀ i, -2 ^ 31 < rollingTime (i + 1) - rollingTime i ∧
      rollingTime (i + 1) - rollingTime i < 2 ^ 31 := by
    intro i
    rw [rollingTime, rollingTime]
    push_cast
    omega
  have hlast : (List.range n).map rollingEvent ++ [rollingEvent n]
      = (List.range (n + 1)).map rollingEvent := by
    rw [List.range_succ, List.map_append, List.map_singleton]
  rw [time, hlast, stamps_rollingEvent, TimestampUnwrapper.mediaTime_stamps hstep]
  simp [rollingTime]

/-- Of events at these times, each has those before it in front. -/
lemma split_rolling {n : ℕ} {before rest : List MediaSourceEvent} {ev : MediaSourceEvent}
    (h : (List.range n).map rollingEvent = before ++ ev :: rest) :
    ∃ i < n, before = (List.range i).map rollingEvent ∧ ev = rollingEvent i := by
  have hlen := congrArg List.length h
  rw [List.length_map, List.length_range, List.length_append, List.length_cons] at hlen
  have hlt : before.length < n := by omega
  have hfront := congrArg (List.take before.length) h
  have hat := congrArg (fun l => l[before.length]?) h
  rw [← List.map_take, List.take_range, Nat.min_eq_left hlt.le, List.take_left] at hfront
  simp only [List.getElem?_map, List.getElem?_range hlt, List.getElem?_append_right le_rfl,
    Nat.sub_self, List.getElem?_cons_zero, Option.map_some, Option.some.injEq] at hat
  exact ⟨_, hlt, hfront.symm, hat.symm⟩

/-- What calls have heard in such a session. -/
lemma heard_rolling (n : ℕ) :
    (calls RtmpSession.media.logged (n + 1) (fromSession (rollingSession (n + 1), []))).2.heard
      = (List.range n).map rollingEvent ++ [rollingEvent n] := by
  obtain ⟨t, hgives⟩ := gives_rolling (n + 1)
  have hheard := heard_calls hgives (fun ev hev b => by
    obtain ⟨i, -, rfl⟩ := List.mem_map.mp hev
    exact ⟨_, _, rfl⟩) (a := fromSession (rollingSession (n + 1), [])) rfl rfl rfl rfl
  rw [List.length_map, List.length_range, List.range_succ, List.map_append, List.map_singleton]
    at hheard
  exact hheard

/-- The last of four messages lies behind the rollover, and all four have exact times. -/
theorem PacketSource.packet_times_rolling :
    (calls RtmpSession.media.logged 4 (fromSession (rollingSession 4, []))).2.heard
        = [rollingEvent 0, rollingEvent 1, rollingEvent 2, rollingEvent 3] ∧
      ∀ packet, .ok packet ∈ (calls RtmpSession.media 4 (fromSession (rollingSession 4))).1 →
        ExactlyTimed [rollingEvent 0, rollingEvent 1, rollingEvent 2, rollingEvent 3] packet := by
  have hheard : (calls RtmpSession.media.logged 4 (fromSession (rollingSession 4, []))).2.heard
      = (List.range 4).map rollingEvent := heard_rolling 3
  have hfits : ∀ before ev rest,
      (calls RtmpSession.media.logged 4 (fromSession (rollingSession 4, []))).2.heard
        = before ++ ev :: rest → MediaSourceEvent.Representable before ev := by
    intro before ev rest hsplit
    rw [hheard] at hsplit
    obtain ⟨i, hlt, rfl, rfl⟩ := split_rolling hsplit
    rw [MediaSourceEvent.Representable, time_rolling]
    -- four times, none of which is near the end of the words
    interval_cases i
    all_goals exact fun _ =>
      ⟨by decide, List.forall_mem_singleton.mpr ⟨by decide, by decide, by decide⟩⟩
  have hopened : Opened RtmpSession.media (rollingSession 4) (fromSession (rollingSession 4)) :=
    .inl rfl
  obtain ⟨-, -, htimes⟩ :=
    (packet_times hopened).2 (fromSession (rollingSession 4, [])) (.inl rfl) rfl 4
  have hexact := htimes hfits
  rw [hheard] at hexact
  exact ⟨hheard, hexact⟩

/-- The last of 4297 messages is at a time that has more nanoseconds than fit. -/
theorem not_exact_rolling :
    ¬ ∀ before ev rest, (calls RtmpSession.media.logged 4297
        (fromSession (rollingSession 4297, []))).2.heard = before ++ ev :: rest → Exact before ev := by
  intro hexact
  have hmessage := (exact_iff _ _).mp (hexact _ _ _ (heard_rolling 4296)) rfl
  rw [time_rolling] at hmessage
  obtain ⟨-, hmoments⟩ := hmessage
  have hscaled : Fits (2147483647 * 4296 * 1000000) := (hmoments _ (List.mem_singleton_self _)).1
  revert hscaled
  decide

end Rtmp
