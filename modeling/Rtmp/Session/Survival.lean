import Rtmp.Session.Delivery
import Rtmp.Session.Player

/-!
Audio messages that the sessions survive.

* `Dispatcher.Survives`: the call that comes to a message does not fail because of it, and every
  other message surfaces as if it had not been there;
* `RtmpPlayer.respecting`: a player does not look at its bookkeeping either;
* `survives_audio` (**silence**): publish sessions and players survive every audio message that is
  legal, except for the empty one that stands for silence.
-/

namespace Rtmp

open Session

namespace Dispatcher

variable {τ α : Type} {d : Dispatcher τ α}

/-- The call from `u` returns an item and leaves a session behind, or is the call from that session;
either way the calls after it return what they return from `absent`. -/
def Passes (d : Dispatcher τ α) (u absent : Session τ) : Prop :=
  ∃ t, ((∃ item, d.next u = (.ok (some item), t)) ∨ d.next u = d.next t) ∧
    ∀ n, (d.calls n t).1 = (d.calls n absent).1

/-- Wherever a call comes to the message, at the front of the queue or on the wire, it passes it. -/
structure Survives (d : Dispatcher τ α) (msg : Message) : Prop where
  queued : ∀ (u u' : Session τ) (rest : List Message), Relation.ReflTransGen d.Silent u u' →
    u'.ended = false → u'.pendingSubs = msg :: rest → d.Passes u (u'.withQueue rest)
  read : ∀ (u u' : Session τ) (r : ChunkReader), Relation.ReflTransGen d.Silent u u' →
    u'.ended = false → u'.pendingSubs = [] → ChunkReader.readMessage.run u'.reader = (.ok msg, r) →
    d.Passes u (u'.withReader r)

/-- A message is survived when its item is all that becomes of it. -/
lemma Respecting.survives (hd : d.Respecting) {msg : Message} {item : α}
    (hsub : ∀ s, (d.onSub msg).run s = (.ok (some item), s))
    (hwire : ∀ s, (d.onWire msg).run s = (.ok (some item), s)) : d.Survives msg where
  queued u u' rest hsilent hopen hqueue := by
    refine ⟨u'.withQueue rest, .inl ⟨item, ?_⟩, fun _ => rfl⟩
    rw [d.next_of_silent hsilent]
    refine d.next_of_some ((d.round_of_sub hopen hqueue).trans ?_)
    rw [hsub, settle]
  read u u' r hsilent hopen hqueue hread := by
    obtain ⟨_, t, hack, halike⟩ := Bookkeeping.maybeSendAck (u'.withReader r)
    refine ⟨t, .inl ⟨item, ?_⟩, fun n => (hd.calls n halike).symm⟩
    rw [d.next_of_silent hsilent]
    refine d.next_of_some ((d.round_of_read hopen hqueue hread).trans ?_)
    have hserve : (d.serve msg).run (u'.withReader r) = (.ok (some item), t) :=
      (Eff.run_bind_ok hack).trans (hwire t)
    rw [hserve, settle]

end Dispatcher

/-! ### The player's bookkeeping -/

namespace RtmpPlayer

lemma respecting : dispatcher.Respecting where
  onSub msg := handleMessage_handled (alike_handled msg)
  onWire msg := handleMessage_handled (alike_handled msg)
  latch _ _ h := ⟨h.reader, h.pendingSubs, rfl, h.own⟩

end RtmpPlayer

/-! ### Audio -/

section Audio

open Flv

variable {msg : Message}

/-- An audio tag surfaces as it is, in both kinds of sessions. -/
lemma survives_tag (haudio : msg.msgTypeId = msgAudio) {tag : AudioTag}
    (htag : parseAudio msg.payload = .ok tag) :
    RtmpSession.dispatcher.Survives msg ∧ RtmpPlayer.dispatcher.Survives msg := by
  have hsession : ∀ s, (RtmpSession.handleMessage msg).run s
      = (.ok (some (.audio msg.timestamp tag)), s) := by
    intro s
    rw [RtmpSession.handleMessage, if_pos haudio, htag]
    rfl
  have hplayer : ∀ s, (RtmpPlayer.handleMessage msg).run s
      = (.ok (some (.audio msg.timestamp tag)), s) := by
    intro s
    rw [RtmpPlayer.handleMessage, if_pos haudio, htag]
    rfl
  exact ⟨RtmpSession.respecting.survives hsession hsession,
    RtmpPlayer.respecting.survives hplayer hplayer⟩

/-- Silence ends a call of a publish session with an error. -/
lemma not_survives_silence (haudio : msg.msgTypeId = msgAudio) (hempty : msg.payload = []) :
    ¬ RtmpSession.dispatcher.Survives msg := by
  intro h
  -- Nothing but the silence is left of the stream.
  let absent : RtmpSession := opened (.new []) .new ⟨"", "", "", 1, []⟩
  have herror : RtmpSession.dispatcher.next (absent.withQueue [msg])
      = (.error (.other "FLV audio tag: empty"), absent) := by
    refine RtmpSession.dispatcher.next_of_some
      ((RtmpSession.dispatcher.round_of_sub rfl rfl).trans ?_)
    have hrun : (RtmpSession.handleMessage msg).run absent
        = (.error (.other "FLV audio tag: empty"), absent) := by
      rw [RtmpSession.handleMessage, if_pos haudio, hempty]
      rfl
    exact congrArg Dispatcher.settle hrun
  have hend : RtmpSession.dispatcher.next absent = (.ok none, absent) :=
    RtmpSession.dispatcher.next_of_some
      (RtmpSession.dispatcher.round_of_error rfl rfl (ChunkReader.readMessage_nil rfl))
  obtain ⟨t, hnext | hnext, hcalls⟩ := h.queued (absent.withQueue [msg]) _ [] .refl rfl rfl
  · obtain ⟨item, hitem⟩ := hnext
    rw [herror] at hitem
    cases hitem
  · have hfirst := hcalls 1
    have hsame : (absent.withQueue [msg]).withQueue [] = absent := rfl
    have hone : ∀ s, (RtmpSession.dispatcher.calls 1 s).1 = [(RtmpSession.dispatcher.next s).1] :=
      fun _ => rfl
    rw [hsame, hone, hone, ← hnext, herror, hend] at hfirst
    cases hfirst

/-- **Silence**.  An audio message that `parse_audio_message` accepts is survived by publish sessions
and players, wherever it comes, exactly when it is not the empty one that stands for silence. -/
theorem survives_audio (haudio : msg.msgTypeId = msgAudio)
    (hlegal : ∃ m, parseAudioMessage msg.payload = .ok m) :
    RtmpSession.dispatcher.Survives msg ∧ RtmpPlayer.dispatcher.Survives msg ↔ msg.payload ≠ [] := by
  constructor
  · rintro ⟨h, -⟩ hempty
    exact not_survives_silence haudio hempty h
  · intro hne
    obtain ⟨m, hm⟩ := hlegal
    rw [parseAudioMessage, if_neg (by rwa [List.isEmpty_iff])] at hm
    cases htag : parseAudio msg.payload with
    | error e =>
        rw [htag] at hm
        cases hm
    | ok tag => exact survives_tag haudio htag

/-- A raw AAC message is survived. -/
theorem survives_audio_aac :
    RtmpSession.dispatcher.Survives ⟨msgAudio, 1, 40, [0xAF, 0x01, 0x21]⟩ ∧
      RtmpPlayer.dispatcher.Survives ⟨msgAudio, 1, 40, [0xAF, 0x01, 0x21]⟩ :=
  (survives_audio rfl ⟨_, rfl⟩).mpr (List.cons_ne_nil _ _)

/-- The silence message is legal, and no publish session survives it. -/
theorem not_survives_audio_silence :
    parseAudioMessage [] = .ok .silence ∧
      ¬ (RtmpSession.dispatcher.Survives ⟨msgAudio, 1, 40, []⟩ ∧
        RtmpPlayer.dispatcher.Survives ⟨msgAudio, 1, 40, []⟩) :=
  ⟨rfl, fun h => not_survives_silence rfl rfl h.1⟩

end Audio

end Rtmp
