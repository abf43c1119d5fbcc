import Rtmp.Adapter.Source
import Rtmp.Session.Failures

/-!
What the end of a packet source has to do with the end of its session.

* `MediaSource.logged`: a source that keeps the answers it gave; `PacketSource.calls_logged` says that
  nothing else changes;
* `PacketSource.EofIsEnd`: calls that return the end only when the session reported it and everything
  was delivered, and for good;
* `eof_is_end` (**the end of the stream**): they do if and only if no aggregate that the session serves
  meanwhile breaks off inside a message.
-/

namespace Rtmp

open Eff (Raises)
open Flv

/-! ### Keeping the answers -/

/-- The answers of a source, the latest last. -/
abbrev AnswerLog := List (Except Error MediaSourceEvent)

/-- The source with its answers kept. -/
def MediaSource.logged {S : Type} (src : MediaSource S) : MediaSource (S × AnswerLog) where
  nextMedia p := ((src.nextMedia p.1).1, ((src.nextMedia p.1).2, p.2 ++ [(src.nextMedia p.1).1]))
  Nearer := InvImage src.Nearer Prod.fst
  wellFounded := InvImage.wf _ src.wellFounded
  nearer := by
    intro p p' ev h hev
    obtain ⟨hout, rfl⟩ := Prod.mk.inj h
    exact src.nearer (Prod.ext hout rfl) hev

lemma MediaSource.nextMedia_logged {S : Type} (src : MediaSource S) (p : S × AnswerLog) :
    src.logged.nextMedia p
      = ((src.nextMedia p.1).1, ((src.nextMedia p.1).2, p.2 ++ [(src.nextMedia p.1).1])) := rfl

/-- An event that is not the last one brings the source nearer to its end. -/
lemma MediaSource.nearer_logged {S : Type} {src : MediaSource S} {p : S × AnswerLog} {s : S}
    {ev : MediaSourceEvent} (h : src.nextMedia p.1 = (.ok ev, s)) (hev : ¬ ev.isFinish) :
    src.logged.Nearer (s, p.2 ++ [.ok ev]) p := by
  refine src.logged.nearer ?_ (mt MediaSourceEvent.isFinish_iff.mpr hev)
  rw [src.nextMedia_logged, h]

namespace PacketSource

variable {S : Type} (src : MediaSource S)

/-- The packet source without the answers. -/
def forget (a : PacketSource (S × AnswerLog)) : PacketSource S :=
  { toBridge := a.toBridge, session := a.session.1, buffered := a.buffered, ended := a.ended
    pending := a.pending }

/-- The answers so far. -/
def log (a : PacketSource (S × AnswerLog)) : AnswerLog := a.session.2

/-- The loop does not depend on the answers that are kept. -/
lemma steadyNext_logged (a : PacketSource (S × AnswerLog)) :
    steadyNext src a.forget
      = ((steadyNext src.logged a).1, (steadyNext src.logged a).2.forget) := by
  induction h : a.session using src.logged.wellFounded.induction generalizing a with
  | _ s ih =>
      subst h
      rw [steadyNext_eq, steadyNext_eq]
      rw [src.nextMedia_logged]
      rcases hmedia : src.nextMedia a.session.1 with ⟨e | ev, s'⟩
      · rw [show a.forget.session = a.session.1 from rfl, hmedia]
        rfl
      · rw [show a.forget.session = a.session.1 from rfl, hmedia]
        dsimp only
        by_cases hev : ev.isFinish
        · rw [if_pos hev, if_pos hev]
          rfl
        · rw [if_neg hev, if_neg hev, show a.forget.toBridge = a.toBridge from rfl]
          rcases (Bridge.convert ev).run a.toBridge with ⟨e | _ | ⟨first, rest⟩, b⟩
          · rfl
          · exact ih _ (src.nearer_logged hmedia hev)
              { a with session := (s', a.session.2 ++ [.ok ev]), toBridge := b } rfl
          · rfl

lemma nextPacket_logged (a : PacketSource (S × AnswerLog)) :
    nextPacket src a.forget
      = ((nextPacket src.logged a).1, (nextPacket src.logged a).2.forget) := by
  rw [nextPacket, nextPacket, show a.forget.buffered = a.buffered from rfl,
    show a.forget.pending = a.pending from rfl, show a.forget.ended = a.ended from rfl]
  rcases a.buffered with _ | ⟨buf, rest⟩
  · rcases a.pending with _ | ⟨packet, rest⟩
    · dsimp only
      split_ifs
      · rfl
      · exact steadyNext_logged src a
    · rfl
  · rfl

/-- **Keeping the answers changes nothing**: the same calls return the same. -/
theorem calls_logged (n : ℕ) (a : PacketSource (S × AnswerLog)) :
    calls src n a.forget = ((calls src.logged n a).1, (calls src.logged n a).2.forget) := by
  induction n generalizing a with
  | zero => rfl
  | succ n ih => rw [calls, calls, nextPacket_logged, ih]

/-- A probe does not depend on the answers that are kept. -/
lemma probeLoop_logged (rounds : ℕ) (haveAudio haveVideo : Bool) (state : ProbeState)
    (p : S × AnswerLog) :
    probeLoop src rounds haveAudio haveVideo state p.1
      = ((probeLoop src.logged rounds haveAudio haveVideo state p).1,
        (probeLoop src.logged rounds haveAudio haveVideo state p).2.1) := by
  induction rounds generalizing haveAudio haveVideo state p with
  | zero => rfl
  | succ rounds ih =>
      rw [probeLoop, probeLoop]
      by_cases hboth : haveAudio && haveVideo
      · rw [if_pos hboth, if_pos hboth]
      rw [if_neg hboth, if_neg hboth]
      rw [src.nextMedia_logged]
      rcases src.nextMedia p.1 with ⟨e | ev, s'⟩
      · cases e with
        | io kind =>
            dsimp only
            split_ifs <;> rfl
        | _ => rfl
      · dsimp only
        split_ifs
        · rfl
        · rcases (Bridge.convert ev).run state.toBridge with ⟨e | packets, b⟩
          · rfl
          · exact ih _ _ _ (s', p.2 ++ [.ok ev])

/-- A packet source around a session, probed or not. -/
def Opened (s : S) (a : PacketSource S) : Prop :=
  a = fromSession s ∨ fromSessionWithProbe src s = .ok a

/-- Every packet source is one that keeps the answers, without them. -/
lemma Opened.logged {src : MediaSource S} {s : S} {a : PacketSource S} (h : Opened src s a) :
    ∃ b, Opened src.logged (s, []) b ∧ b.forget = a := by
  rcases h with rfl | h
  · exact ⟨_, .inl rfl, rfl⟩
  · rw [fromSessionWithProbe, probeSource, probeLoop_logged src _ _ _ _ (s, [])] at h
    rcases hloop : probeLoop src.logged probeLimit false false ⟨.new, [], false⟩ (s, [])
      with ⟨e | state, p⟩
    · rw [hloop] at h
      cases h
    · rw [hloop] at h
      cases h
      refine ⟨{ toBridge := { state.toBridge with streams := sortStreams state.streams }
                session := p, buffered := state.buffered, ended := state.ended, pending := [] },
        .inr ?_, rfl⟩
      rw [fromSessionWithProbe, probeSource, hloop]

/-! ### The end -/

/-- The session reported its end, and everything was delivered. -/
structure Over (a : PacketSource (S × AnswerLog)) : Prop where
  ended : a.ended = true
  buffered : a.buffered = []
  pending : a.pending = []
  reported : a.log.getLast? = some (.ok .finish)

/-- Whenever one of `n` calls returns the end, the session has reported it and everything was
delivered, and all calls after it return the end as well. -/
def EofIsEnd (n : ℕ) (a : PacketSource (S × AnswerLog)) : Prop :=
  ∀ i < n, (calls src.logged n a).1[i]? = some (.error .eof) →
    Over (calls src.logged (i + 1) a).2 ∧
      ∀ j, i ≤ j → j < n → (calls src.logged n a).1[j]? = some (.error .eof)

variable {src}

lemma length_calls (n : ℕ) (a : PacketSource S) : (calls src n a).1.length = n := by
  induction n generalizing a with
  | zero => rfl
  | succ n ih => rw [calls, List.length_cons, ih]

/-- The first of the calls, and the rest of them. -/
lemma eofIsEnd_succ {n : ℕ} {a : PacketSource (S × AnswerLog)} :
    EofIsEnd src (n + 1) a ↔
      ((nextPacket src.logged a).1 = .error .eof →
        Over (nextPacket src.logged a).2 ∧
          ∀ out ∈ (calls src.logged n (nextPacket src.logged a).2).1, out = .error .eof) ∧
      EofIsEnd src n (nextPacket src.logged a).2 := by
  have hlen : (calls src.logged n (nextPacket src.logged a).2).1.length = n := length_calls n _
  constructor
  · intro h
    refine ⟨fun heof => ?_, fun i hi heof => ?_⟩
    · obtain ⟨hover, hlater⟩ := h 0 (Nat.succ_pos n) (congrArg some heof)
      refine ⟨hover, fun out hout => ?_⟩
      obtain ⟨j, hj, rfl⟩ := List.mem_iff_getElem.mp hout
      have hnext := hlater (j + 1) (Nat.zero_le _) (by omega)
      rw [calls, List.getElem?_cons_succ, List.getElem?_eq_getElem hj] at hnext
      exact Option.some.inj hnext
    · obtain ⟨hover, hlater⟩ := h (i + 1) (by omega) heof
      exact ⟨hover, fun j hij hj => hlater (j + 1) (by omega) (by omega)⟩
  · rintro ⟨hfirst, hrest⟩ i hi heof
    cases i with
    | zero =>
        obtain ⟨hover, hall⟩ := hfirst (Option.some.inj heof)
        refine ⟨hover, fun j _ hj => ?_⟩
        cases j with
        | zero => exact heof
        | succ j =>
            have hj' : j < (calls src.logged n (nextPacket src.logged a).2).1.length := by omega
            rw [calls, List.getElem?_cons_succ, List.getElem?_eq_getElem hj',
              hall _ (List.getElem_mem hj')]
    | succ i =>
        obtain ⟨hover, hlater⟩ := hrest i (by omega) heof
        refine ⟨hover, fun j hij hj => ?_⟩
        obtain ⟨j, rfl⟩ := Nat.exists_eq_succ_of_ne_zero (by omega : j ≠ 0)
        exact hlater j (by omega) (by omega)

/-- A source that is over stays so. -/
lemma Over.nextPacket {a : PacketSource (S × AnswerLog)} (h : Over a) :
    PacketSource.nextPacket src.logged a = (.error .eof, a) := by
  rw [PacketSource.nextPacket, h.buffered, h.pending]
  exact if_pos h.ended

lemma Over.calls {a : PacketSource (S × AnswerLog)} (h : Over a) (n : ℕ) :
    ∀ out ∈ (PacketSource.calls src.logged n a).1, out = .error .eof := by
  induction n with
  | zero => exact nofun
  | succ n ih =>
      rw [PacketSource.calls, h.nextPacket]
      intro out hout
      rcases List.mem_cons.mp hout with rfl | hout
      · rfl
      · exact ih out hout

end PacketSource

/-! ### Errors of the bridge -/

/-- The errors of a track name the track. -/
lemma demux_notEof {T : Type} {what : String} {head : UInt8} {shared : Option FourCc}
    {parse : List UInt8 → Except Error T} {tracks : List MultitrackTrack} {e : Error}
    (h : demux what head shared parse tracks = .error e) : NotEof e := by
  induction tracks with
  | nil => cases h
  | cons track tracks ih =>
      rw [demux] at h
      rcases hfcc : track.fourcc.or shared with _ | fcc
      · rw [hfcc] at h
        cases h
        rintro ⟨⟩
      · rw [hfcc] at h
        dsimp only [bind, Except.bind] at h
        rcases hparse : parse (head :: (fcc.bytes ++ track.body)) with e' | tag
        · rw [hparse] at h
          cases h
          rintro ⟨⟩
        · rw [hparse] at h
          rcases hrest : demux what head shared parse tracks with e' | tags
          · rw [hrest] at h
            cases h
            exact ih hrest
          · rw [hrest] at h
            cases h

/-- The packets of an event fail with what a track fails with. -/
lemma Bridge.convert_raises (ev : MediaSourceEvent) : Raises (fun _ => True) NotEof (convert ev) := by
  have hpackets : ∀ {T : Type} (k : MediaKind T) (tsMs : Int64) (tag : T),
      (∀ e, k.demuxTracks tag = .error e → NotEof e) →
        Raises (fun _ => True) NotEof (mediaPackets k tsMs tag) :=
    fun k tsMs tag h => .ite ((Raises.ofExcept h).bind fun _ => .modifyGet fun _ _ => trivial)
      (.modifyGet fun _ _ => trivial)
  have hts : ∀ timestamp, Raises (fun _ => True) NotEof (unwrapMs timestamp) :=
    fun _ => .modifyGet fun _ _ => trivial
  cases ev with
  | audio timestamp tag =>
      refine (hts timestamp).bind fun tsMs => hpackets audioMedia tsMs tag fun e h => ?_
      change tag.demuxTracks = .error e at h
      rw [AudioTag.demuxTracks] at h
      split at h
      · cases h
        exact nofun
      · cases h
        exact nofun
      · exact demux_notEof h
  | video timestamp tag =>
      refine (hts timestamp).bind fun tsMs => hpackets videoMedia tsMs tag fun e h => ?_
      change tag.demuxTracks = .error e at h
      rw [VideoTag.demuxTracks] at h
      split at h
      · cases h
        exact nofun
      · cases h
        exact nofun
      · exact demux_notEof h
  | metadata value => exact (Raises.modify fun _ _ => trivial).bind fun _ => .pure _
  | skip => exact .pure _
  | finish => exact .pure _

/-- Only an input that broke off looks like the end. -/
lemma rtmpToCoreErr_eq_eof {e : Error} : rtmpToCoreErr e = .eof ↔ e = .unexpectedEof := by
  cases e <;> simp [rtmpToCoreErr]

/-! ### Rounds of the session -/

namespace RtmpSession

/-- None of the messages that the next `k` rounds serve breaks off. -/
def Sound (k : ℕ) (s : RtmpSession) : Prop := ∀ j < k, ¬ ServesBroken (dispatcher.rounds j s)

lemma sound_add {n k : ℕ} {s : RtmpSession} :
    Sound (n + k) s ↔ Sound n s ∧ Sound k (dispatcher.rounds n s) := by
  constructor
  · intro h
    refine ⟨fun j hj => h j (by omega), fun j hj => ?_⟩
    rw [Dispatcher.rounds_add]
    exact h (n + j) (by omega)
  · rintro ⟨hfirst, hrest⟩ j hj
    by_cases hjn : j < n
    · exact hfirst j hjn
    · obtain ⟨i, rfl⟩ := Nat.exists_eq_add_of_le (Nat.le_of_not_lt hjn)
      rw [← Dispatcher.rounds_add]
      exact hrest i (by omega)

lemma sound_succ {k : ℕ} {s : RtmpSession} :
    Sound (k + 1) s ↔ Sound k s ∧ ¬ ServesBroken (dispatcher.rounds k s) := by
  rw [sound_add]
  refine and_congr_right fun _ => ⟨fun h => h 0 Nat.one_pos, fun h j hj => ?_⟩
  obtain rfl := Nat.lt_one_iff.mp hj
  exact h

/-- An event takes some rounds, and only the last of them can meet a message that breaks off. -/
lemma nextMedia_rounds (s : RtmpSession) :
    ∃ k, (media.nextMedia s).2 = dispatcher.rounds (k + 1) s ∧ Sound k s ∧
      ((media.nextMedia s).1 = .error .unexpectedEof ↔ ServesBroken (dispatcher.rounds k s)) := by
  induction s using dispatcher.next_induct with
  | h s ih =>
      have hbroken := round_breaksOff s
      rcases hround : dispatcher.round s with ⟨_ | out, s'⟩
      · have hnext : media.nextMedia s = media.nextMedia s' := by
          rw [media, Dispatcher.media]
          simp only [dispatcher.next_of_none hround]
        have hstep : dispatcher.rounds 1 s = s' := by
          rw [Dispatcher.rounds, Dispatcher.rounds, hround]
        obtain ⟨k, hend, hsound, heof⟩ := ih s' hround
        refine ⟨1 + k, ?_, sound_add.mpr ⟨fun j hj => ?_, ?_⟩, ?_⟩
        · rw [hnext, hend, ← hstep, Dispatcher.rounds_add, Nat.add_assoc]
        · obtain rfl := Nat.lt_one_iff.mp hj
          rw [Dispatcher.rounds, ← hbroken, hround]
          rintro ⟨⟩
        · rw [hstep]
          exact hsound
        · rw [hnext, heof, ← Dispatcher.rounds_add, hstep]
      · refine ⟨0, ?_, fun j hj => absurd hj (Nat.not_lt_zero j), ?_⟩
        · rw [Dispatcher.rounds, Dispatcher.rounds, hround, media, Dispatcher.media]
          simp only [dispatcher.next_of_some hround]
          rcases out with e | _ | item <;> rfl
        · rw [Dispatcher.rounds, ← hbroken, hround, media, Dispatcher.media]
          simp only [dispatcher.next_of_some hround]
          rcases out with e | _ | item <;> simp

end RtmpSession

/-! ### Calls -/

namespace PacketSource

open RtmpSession (Sound)

/-- A packet source around a publish session, with the answers of the session kept. -/
abbrev Logged := PacketSource (RtmpSession × AnswerLog)

/-- A source that noted the end was told of it last. -/
def Kept (a : Logged) : Prop := a.ended = true → a.log.getLast? = some (.ok .finish)

/-- From `a`, a call runs `k` rounds of the session; if it returns the end, then the source is over or
one of the messages served broke off. -/
def Runs (k : ℕ) (a : Logged) (r : Except CoreError Packet × Logged) : Prop :=
  r.2.session.1 = RtmpSession.dispatcher.rounds k a.session.1 ∧ Kept r.2 ∧
    (r.1 ≠ .error .eof ∧ Sound k a.session.1 ∨ r.1 = .error .eof ∧ (Over r.2 ↔ Sound k a.session.1))

/-- An error of the session ends the loop. -/
lemma steadyNext_error {S : Type} {src : MediaSource S} {a : PacketSource S} {e : Error} {s' : S}
    (h : src.nextMedia a.session = (.error e, s')) :
    steadyNext src a = (.error (rtmpToCoreErr e), { a with session := s' }) := by
  rw [steadyNext_eq, h]

/-- The loop runs some rounds. -/
lemma steadyNext_runs (a : Logged) (hopen : a.ended = false) (hbuffered : a.buffered = [])
    (hpending : a.pending = []) : ∃ k, Runs k a (steadyNext RtmpSession.media.logged a) := by
  induction h : a.session using RtmpSession.media.logged.wellFounded.induction generalizing a with
  | _ s ih =>
      subst h
      obtain ⟨k, hend, hsound, heof⟩ := RtmpSession.nextMedia_rounds a.session.1
      have hkept : ∀ b : Logged, b.ended = false → Kept b := fun b hb h => by
        rw [hb] at h
        cases h
      rw [steadyNext_eq, RtmpSession.media.nextMedia_logged]
      rcases hmedia : RtmpSession.media.nextMedia a.session.1 with ⟨e | ev, s'⟩
      · rw [hmedia] at hend heof
        refine ⟨k + 1, hend, hkept _ hopen, ?_⟩
        -- an end of input is only ever read off a message that breaks off
        by_cases hbroken : RtmpSession.ServesBroken (RtmpSession.dispatcher.rounds k a.session.1)
        · have he := heof.mpr hbroken
          refine .inr ⟨congrArg Except.error (rtmpToCoreErr_eq_eof.mpr (Except.error.inj he)), ?_⟩
          refine iff_of_false (fun hover => ?_) fun h => (RtmpSession.sound_succ.mp h).2 hbroken
          rw [hover.ended] at hopen
          cases hopen
        · refine .inl ⟨fun hout => ?_, RtmpSession.sound_succ.mpr ⟨hsound, hbroken⟩⟩
          have he := rtmpToCoreErr_eq_eof.mp (Except.error.inj hout)
          exact hbroken (heof.mp (congrArg Except.error he))
      · rw [hmedia] at hend heof
        have hsound' : Sound (k + 1) a.session.1 :=
          RtmpSession.sound_succ.mpr ⟨hsound, fun h => by cases heof.mpr h⟩
        dsimp only
        by_cases hev : ev.isFinish
        · rw [if_pos hev]
          obtain rfl := MediaSourceEvent.isFinish_iff.mp hev
          have hlast : (a.session.2 ++ [(.ok .finish : Except Error MediaSourceEvent)]).getLast?
              = some (.ok .finish) := List.getLast?_concat
          refine ⟨k + 1, hend, fun _ => hlast, .inr ⟨rfl, ?_⟩⟩
          exact iff_of_true ⟨rfl, hbuffered, hpending, hlast⟩ hsound'
        · rw [if_neg hev]
          rcases hconvert : (Bridge.convert ev).run a.toBridge with ⟨e | _ | ⟨first, rest⟩, b⟩
          · refine ⟨k + 1, hend, hkept _ hopen, .inl ⟨fun hout => ?_, hsound'⟩⟩
            have he := rtmpToCoreErr_eq_eof.mp (Except.error.inj hout)
            exact (Bridge.convert_raises ev).error trivial hconvert he
          · -- an event without packets: the source goes round again, nearer to its end
            obtain ⟨n, hrounds, hkept', hout⟩ := ih _
              (RtmpSession.media.nearer_logged hmedia hev)
              { a with session := (s', a.session.2 ++ [.ok ev]), toBridge := b } hopen hbuffered
              hpending
              rfl
            obtain rfl : s' = RtmpSession.dispatcher.rounds (k + 1) a.session.1 := hend
            refine ⟨k + 1 + n, hrounds.trans (Dispatcher.rounds_add ..), hkept', ?_⟩
            rw [RtmpSession.sound_add, and_iff_right hsound']
            exact hout
          · exact ⟨k + 1, hend, hkept _ hopen, .inl ⟨nofun, hsound'⟩⟩

/-- So does a call; what was buffered or is pending takes none. -/
lemma nextPacket_runs {a : Logged} (h : Kept a) :
    ∃ k, Runs k a (nextPacket RtmpSession.media.logged a) := by
  rw [nextPacket]
  rcases hbuffered : a.buffered with _ | ⟨buf, rest⟩
  · rcases hpending : a.pending with _ | ⟨packet, rest⟩
    · by_cases hended : a.ended = true
      · dsimp only
        rw [if_pos hended]
        exact ⟨0, rfl, h, .inr ⟨rfl, iff_of_true ⟨hended, hbuffered, hpending, h hended⟩ nofun⟩⟩
      · dsimp only
        rw [if_neg hended]
        exact steadyNext_runs a (eq_false_of_ne_true hended) hbuffered hpending
    · exact ⟨0, rfl, h, .inl ⟨nofun, nofun⟩⟩
  · exact ⟨0, rfl, h, .inl ⟨nofun, nofun⟩⟩

/-- Calls run rounds of the session, and return the end only at the end if and only if none of the
messages these serve breaks off. -/
lemma calls_rounds (n : ℕ) {a : Logged} (h : Kept a) :
    ∃ k, (calls RtmpSession.media.logged n a).2.session.1
        = RtmpSession.dispatcher.rounds k a.session.1 ∧
      (EofIsEnd RtmpSession.media n a ↔ Sound k a.session.1) := by
  induction n generalizing a with
  | zero => exact ⟨0, rfl, iff_of_true nofun nofun⟩
  | succ n ih =>
      obtain ⟨k, hrounds, hkept, hout⟩ := nextPacket_runs h
      obtain ⟨m, hend, hiff⟩ := ih hkept
      rw [hrounds] at hend hiff
      refine ⟨k + m, hend.trans (Dispatcher.rounds_add ..), ?_⟩
      rw [eofIsEnd_succ, RtmpSession.sound_add, hiff]
      refine and_congr_left fun _ => ?_
      rcases hout with ⟨hne, hsound⟩ | ⟨heq, hover⟩
      · exact iff_of_true (fun heq => absurd heq hne) hsound
      · exact ⟨fun hall => hover.mp (hall heq).1,
          fun hsound _ => ⟨hover.mpr hsound, (hover.mpr hsound).calls n⟩⟩

/-- The rounds of a probe serve nothing that breaks off, or the probe fails. -/
lemma probeLoop_rounds {rounds : ℕ} {haveAudio haveVideo : Bool} {state state' : ProbeState}
    {p p' : RtmpSession × AnswerLog} (hopen : state.ended = false)
    (h : probeLoop RtmpSession.media.logged rounds haveAudio haveVideo state p = (.ok state', p')) :
    ∃ k, p'.1 = RtmpSession.dispatcher.rounds k p.1 ∧ Sound k p.1 ∧
      (state'.ended = true → p'.2.getLast? = some (.ok .finish)) := by
  induction rounds generalizing haveAudio haveVideo state p with
  | zero =>
      cases h
      exact ⟨0, rfl, nofun, fun h => absurd (hopen.symm.trans h) Bool.false_ne_true⟩
  | succ rounds ih =>
      have hkept : ∀ log : AnswerLog, state.ended = true → log.getLast? = some (.ok .finish) :=
        fun _ h => absurd (hopen.symm.trans h) Bool.false_ne_true
      rw [probeLoop] at h
      by_cases hboth : haveAudio && haveVideo
      · rw [if_pos hboth] at h
        cases h
        exact ⟨0, rfl, nofun, hkept _⟩
      rw [if_neg hboth] at h
      obtain ⟨k, hend, hsound, heof⟩ := RtmpSession.nextMedia_rounds p.1
      rw [RtmpSession.media.nextMedia_logged] at h
      rcases hmedia : RtmpSession.media.nextMedia p.1 with ⟨e | ev, s'⟩
      all_goals rw [hmedia] at h hend heof
      all_goals dsimp only at h
      · -- the probe swallows timeouts only, so it has not met the end of input
        have hsound' : e ≠ .unexpectedEof → Sound (k + 1) p.1 := fun he =>
          RtmpSession.sound_succ.mpr
            ⟨hsound, fun hbroken => he (Except.error.inj (heof.mpr hbroken))⟩
        cases e with
        | io kind =>
            dsimp only at h
            split_ifs at h
            · cases h
              exact ⟨k + 1, hend, hsound' nofun, hkept _⟩
            · cases h
        | _ => cases h
      · have hsound' : Sound (k + 1) p.1 :=
          RtmpSession.sound_succ.mpr ⟨hsound, fun h => by cases heof.mpr h⟩
        split_ifs at h with hev
        · cases h
          refine ⟨k + 1, hend, hsound', fun _ => ?_⟩
          obtain rfl := MediaSourceEvent.isFinish_iff.mp hev
          exact List.getLast?_concat
        · rcases hconvert : (Bridge.convert ev).run state.toBridge with ⟨e | packets, b⟩
          · rw [hconvert] at h
            cases h
          · rw [hconvert] at h
            obtain rfl : s' = RtmpSession.dispatcher.rounds (k + 1) p.1 := hend
            obtain ⟨m, hrounds, hsound'', hlast⟩ := @ih _ _ (state.keep ev packets b) _ hopen h
            exact ⟨k + 1 + m, hrounds.trans (Dispatcher.rounds_add ..),
              RtmpSession.sound_add.mpr ⟨hsound', hsound''⟩, hlast⟩

/-- A source that was just opened has asked the session for nothing that breaks off. -/
lemma Opened.rounds {s : RtmpSession} {a : Logged} (h : Opened RtmpSession.media.logged (s, []) a) :
    ∃ k, a.session.1 = RtmpSession.dispatcher.rounds k s ∧ Sound k s ∧ Kept a := by
  rcases h with rfl | h
  · exact ⟨0, rfl, nofun, fun h => absurd h Bool.false_ne_true⟩
  · rw [fromSessionWithProbe, probeSource] at h
    rcases hloop : probeLoop RtmpSession.media.logged probeLimit false false ⟨.new, [], false⟩ (s, [])
      with ⟨e | state, p⟩
    · rw [hloop] at h
      cases h
    · rw [hloop] at h
      cases h
      exact probeLoop_rounds rfl hloop

end PacketSource

open PacketSource RtmpSession in
/-- **The end of the stream**: a packet source around a publish session, probed or not, returns the end
only when the session reported it and everything was delivered, and then for good, if and only if no
aggregate that the session serves meanwhile breaks off inside a message.  The answers of the session are
kept by a source `b` that does the same as `a`. -/
theorem eof_is_end {s : RtmpSession} {a : RtmpPacketSource} (h : Opened RtmpSession.media s a) :
    ∃ b : Logged, Opened RtmpSession.media.logged (s, []) b ∧ b.forget = a ∧ ∀ n,
      calls RtmpSession.media n a
          = ((calls RtmpSession.media.logged n b).1, (calls RtmpSession.media.logged n b).2.forget) ∧
        ∃ k, (calls RtmpSession.media n a).2.session = dispatcher.rounds k s ∧
          (EofIsEnd RtmpSession.media n b ↔
            ∀ j < k, ∀ msg rest, (dispatcher.rounds j s).serving = some (msg, rest) →
              parseAggregate msg ≠ .error .unexpectedEof) := by
  obtain ⟨b, hb, rfl⟩ := h.logged
  refine ⟨b, hb, rfl, fun n => ⟨calls_logged _ n b, ?_⟩⟩
  obtain ⟨k, hrounds, hsound, hkept⟩ := hb.rounds
  obtain ⟨m, hend, hiff⟩ := calls_rounds n hkept
  rw [hrounds] at hend hiff
  refine ⟨k + m, ?_, hiff.trans ?_⟩
  · rw [calls_logged]
    exact hend.trans (Dispatcher.rounds_add ..)
  · have hall := sound_add (n := k) (k := m) (s := s)
    rw [and_iff_right hsound] at hall
    refine hall.symm.trans (forall_congr' fun j => imp_congr_right fun _ => ?_)
    refine ⟨fun hnot msg rest hserving hbroken => hnot ⟨msg, rest, hserving, hbroken⟩, ?_⟩
    rintro hnone ⟨msg, rest, hserving, hbroken⟩
    exact hnone msg rest hserving hbroken

/-- A session whose first message is no more than the first byte of a message inside an aggregate. -/
def brokenSession : RtmpSession :=
  RtmpSession.receiving [(csidVideo, ⟨msgAggregate, 1, 0, [9]⟩),
    (csidAudio, ⟨msgAudio, 1, 0, [0x2F, 0]⟩)]

/-- Its source returns the end while the stream goes on. -/
theorem not_eofIsEnd_broken :
    ¬ PacketSource.EofIsEnd RtmpSession.media 1 (.fromSession (brokenSession, [])) := by
  have hround : (RtmpSession.dispatcher.round brokenSession).1 = some (.error .unexpectedEof) := by
    refine (RtmpSession.round_breaksOff _).mpr ⟨⟨msgAggregate, 1, 0, [9]⟩, [], ?_, ?_⟩
    · decide +kernel
    · decide +kernel
  have hmedia : (RtmpSession.media.nextMedia brokenSession).1 = .error .unexpectedEof := by
    rw [RtmpSession.media, Dispatcher.media]
    simp only [RtmpSession.dispatcher.next_of_some (Prod.ext hround rfl)]
  have hfirst := PacketSource.steadyNext_error (a := .fromSession (brokenSession, []))
    (h := (Prod.ext hmedia rfl : RtmpSession.media.logged.nextMedia (brokenSession, [])
      = (.error .unexpectedEof, _)))
  have hcall : PacketSource.nextPacket RtmpSession.media.logged (.fromSession (brokenSession, []))
      = PacketSource.steadyNext RtmpSession.media.logged (.fromSession (brokenSession, [])) := rfl
  rw [hfirst] at hcall
  intro h
  have hover := (h 0 Nat.one_pos (by rw [PacketSource.calls, hcall]; rfl)).1.ended
  rw [PacketSource.calls, PacketSource.calls, hcall] at hover
  cases hover

open PacketSource in
/-- One call of it. -/
theorem eof_is_end_broken :
    ∃ b : Logged, b.forget = fromSession brokenSession ∧
      ∃ k, (calls RtmpSession.media 1 (fromSession brokenSession)).2.session
          = RtmpSession.dispatcher.rounds k brokenSession ∧
        (EofIsEnd RtmpSession.media 1 b ↔
          ∀ j < k, ∀ msg rest, (RtmpSession.dispatcher.rounds j brokenSession).serving
          = some (msg, rest) →
            parseAggregate msg ≠ .error .unexpectedEof) := by
  obtain ⟨b, -, hb, hcalls⟩ := eof_is_end (s := brokenSession) (.inl rfl)
  exact ⟨b, hb, (hcalls 1).2⟩

end Rtmp
