import Rtmp.Session.Alike

/-!
A message that cannot be parsed does not poison a publish session.

* `guarded_handleMessage`: the dispatch parses before it acts, so an error depends on the message
  alone and leaves the session alone;
* `Untouched`: nothing but acknowledgements happened to a session;
* `rejected_isolated`: a call that meets such a message fails, and every later call returns what it
  would have returned without the message.
-/

namespace Rtmp

namespace RtmpSession

open Eff (Guarded Total)
open Session

/-! ### Parsing before acting -/

lemma total_dispatchDataValues (values : List Amf0Value) : Total (dispatchDataValues values) := by
  have hframes : ∀ f, Total (modifyFrames f) := fun f => Total.modify _
  rw [dispatchDataValues]
  rcases parseDataFrame values with _ | ⟨handler, value⟩ | handler
  · rcases metadataObject values with _ | value
    · exact .pure _
    · exact (hframes _).bind fun _ => .pure _
  · exact (hframes _).bind fun _ => .pure _
  · exact (hframes _).bind fun _ => .pure _

lemma guarded_handleCommandValues (values : List Amf0Value) :
    Guarded (handleCommandValues values) := by
  refine Guarded.bind_total ?_ fun _ => .pure _
  rw [classifyCommand]
  cases commandName values with
  | none => exact .ofExcept_bind _ fun _ => .pure _
  | some name =>
      refine .ite ((Total.modify _).bind fun _ => .pure _).guarded ?_
      refine .ofExcept_bind _ fun cmd => ?_
      cases cmd with
      | some cmd => exact .pure _
      | none => exact .ite (.pure _) (.ite (.pure _) (.pure _))

/-- **Parsing comes first**: an error of the dispatch is the message's alone. -/
theorem guarded_handleMessage (msg : Message) : Guarded (handleMessage msg) := by
  have hdata : ∀ x : Except Error (List Amf0Value),
      Guarded (Eff.ofExcept x >>= dispatchDataValues) := fun x =>
    .ofExcept_bind x fun _ => (total_dispatchDataValues _).guarded
  have hcommand : ∀ x : Except Error (List Amf0Value),
      Guarded (Eff.ofExcept x >>= handleCommandValues) := fun x =>
    .ofExcept_bind x guarded_handleCommandValues
  have hreader : ∀ f, Total (onReader (Eff.modify f) : SessionM PublishState Unit) :=
    fun f => (Total.modify f).zoom
  refine .ite (.ofExcept_bind _ fun _ => .pure _) (.ite (.ofExcept_bind _ fun _ => .pure _) ?_)
  refine .ite (hdata _) (.ite (hdata _) (.ite (hcommand _) (.ite (hcommand _) ?_)))
  refine .ite (.ofExcept_bind _ fun _ => .pure _) ?_
  refine .ite (.bind_total (.ofExcept_bind _ fun _ => (Total.modify _).guarded) fun _ => .pure _) ?_
  refine .ite (.bind_total (.ofExcept_bind _ fun _ => (hreader _).guarded) fun _ => .pure _) ?_
  refine .ite (.bind_total (.ofExcept_bind _ fun _ => (hreader _).guarded) fun _ => .pure _) ?_
  refine .ite (.bind_total (.ofExcept_bind _ fun limit => ?_) fun _ => .pure _) (.pure _)
  exact ((Bookkeeping.applyPeerBandwidth limit.1 limit.2).bind .adoptWindow).total.guarded

/-! ### What an acknowledgement leaves alone -/

/-- Nothing but acknowledgements happened between the two sessions: stored frames, queue, end mark,
limiter, and of the reader the stream, the chunk size, the window and every chunk stream are the
same. -/
structure Untouched (s t : RtmpSession) : Prop where
  alike : Alike s t
  peerBw : t.peerBw = s.peerBw
  windowAckSize : t.reader.windowAckSize = s.reader.windowAckSize

lemma untouched_maybeSendAck (s : RtmpSession) :
    ∃ t, (maybeSendAck : SessionM PublishState Unit).run s = (.ok (), t) ∧ Untouched s t := by
  obtain ⟨_, t, hrun, halike⟩ := Bookkeeping.maybeSendAck s
  have hkeep : Eff.Along (fun s t : RtmpSession =>
      t.peerBw = s.peerBw ∧ t.reader.windowAckSize = s.reader.windowAckSize) maybeSendAck := by
    intro s
    have hdue : s.reader.ackDue.2.windowAckSize = s.reader.windowAckSize := by
      rw [ChunkReader.ackDue]
      split_ifs <;> rfl
    have hack : (onReader (Eff.modifyGet ChunkReader.ackDue) : SessionM PublishState _).run s
        = (.ok s.reader.ackDue.1, s.withReader s.reader.ackDue.2) := rfl
    rw [maybeSendAck, Eff.run_bind_ok hack]
    cases s.reader.ackDue.1 with
    | none => exact ⟨rfl, hdue⟩
    | some seq => exact ⟨rfl, hdue⟩
  obtain ⟨hbw, hwindow⟩ := hkeep.of_run hrun
  exact ⟨t, hrun, halike, hbw, hwindow⟩

/-! ### Calls that meet a bad message -/

/-- **Isolation**.  Let the dispatch of a message fail.  Then it fails in every session and changes
nothing.  A call that finds the message at the front of the queue drops it and fails; one that reads
it off the wire fails in a session that differs from the one that has taken the message off the wire
by an acknowledgement at most.  From there on every call returns what it returns in a session that
never dispatched the message. -/
theorem rejected_isolated {msg : Message} {e : Error} {s : RtmpSession}
    (h : ((handleMessage msg).run s).1 = .error e) :
    (∀ u : RtmpSession, (handleMessage msg).run u = (.error e, u)) ∧
      (∀ (u u' : RtmpSession) (rest : List Message),
        Relation.ReflTransGen dispatcher.Silent u u' → u'.ended = false →
        u'.pendingSubs = msg :: rest → u.nextPacket = (.error e, u'.withQueue rest)) ∧
      ∀ (u u' : RtmpSession) (r : ChunkReader),
        Relation.ReflTransGen dispatcher.Silent u u' → u'.ended = false → u'.pendingSubs = [] →
        ChunkReader.readMessage.run u'.reader = (.ok msg, r) →
        ∃ t, u.nextPacket = (.error e, t) ∧ Untouched (u'.withReader r) t ∧
          ∀ absent : RtmpSession, Alike (u'.withReader r) absent →
            ∀ n, (dispatcher.calls n t).1 = (dispatcher.calls n absent).1 := by
  have hall : ∀ u : RtmpSession, (handleMessage msg).run u = (.error e, u) :=
    guarded_handleMessage msg s e h
  refine ⟨hall, ?_, ?_⟩
  · intro u u' rest hsilent hopen hqueue
    rw [nextPacket, dispatcher.next_of_silent hsilent]
    refine dispatcher.next_of_some ((dispatcher.round_of_sub hopen hqueue).trans ?_)
    have hrun : (dispatcher.onSub msg).run (u'.withQueue rest) = (.error e, u'.withQueue rest) :=
      hall _
    rw [hrun, Dispatcher.settle]
  · intro u u' r hsilent hopen hqueue hread
    -- off the wire, an acknowledgement may be written first
    obtain ⟨t, hack, huntouched⟩ := untouched_maybeSendAck (u'.withReader r)
    refine ⟨t, ?_, huntouched, fun absent habsent n => ?_⟩
    · rw [nextPacket, dispatcher.next_of_silent hsilent]
      refine dispatcher.next_of_some ((dispatcher.round_of_read hopen hqueue hread).trans ?_)
      have hrun : (dispatcher.serve msg).run (u'.withReader r) = (.error e, t) :=
        (Eff.run_bind_ok hack).trans (hall t)
      rw [hrun, Dispatcher.settle]
    · exact calls_alike n (huntouched.alike.symm.trans habsent)

/-- A video message without a byte, out of an aggregate, is dropped in front of what follows it. -/
theorem rejected_isolated_empty :
    let s : RtmpSession := opened (.new []) .new ⟨"live", "cam", "live", 1, []⟩
    let empty : Message := ⟨msgVideo, 1, 40, []⟩
    let other : Message := ⟨msgAudio, 1, 40, [0xAF, 0x01]⟩
    nextPacket (s.withQueue [empty, other])
      = (.error (.other "FLV video tag: empty"), s.withQueue [other]) := by
  intro s empty other
  have h : ((handleMessage empty).run s).1 = .error (.other "FLV video tag: empty") := rfl
  exact (rejected_isolated h).2.1 (s.withQueue [empty, other]) (s.withQueue [empty, other]) [other]
    .refl rfl
    rfl

end RtmpSession

end Rtmp
