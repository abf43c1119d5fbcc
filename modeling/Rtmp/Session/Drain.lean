import Rtmp.Session.Pings

/-!
How long it takes until a queue of messages is served, when serving adds to it.

Every message of an aggregate takes fifteen bytes of its body besides its own payload, so what waits has
a length that serving a message makes shorter by fifteen, whatever it adds: `bodyLength`.

* `subsOf_shorter`: the messages of an aggregate are shorter than it is;
* `Dispatcher.markRounds`, `Dispatcher.drained`: the queue with a mark on the messages that come
  from one aggregate, through any number of aggregates in it, and those of them that were
  dispatched;
* `drain_add_le` (the step) and `drained_add_le` (**linear draining**), over any rounds;
* `settled_of_quiet`: rounds that take nothing off the wire come to the end of the queue;
* `RtmpSession.aggregate_drains`: both for the calls of a publish session.
-/

namespace Rtmp

open Session

/-! ### Lengths -/

lemma bodyLength_subsOf (msg : Message) : bodyLength (subsOf msg) ≤ msg.payload.length := by
  rw [subsOf]
  cases h : parseAggregate msg with
  | ok subs => exact bodyLength_parseAggregate h
  | error e => exact Nat.zero_le _

lemma le_bodyLength {sub : Message} {subs : List Message} (h : sub ∈ subs) :
    sub.payload.length + 15 ≤ bodyLength subs := by
  obtain ⟨a, b, rfl⟩ := List.append_of_mem h
  rw [bodyLength_append, bodyLength_cons]
  omega

/-- What is queued is shorter than the aggregate it comes from. -/
lemma subsOf_shorter {msg sub : Message} (h : sub ∈ subsOf msg) :
    sub.payload.length < msg.payload.length := by
  have hin := le_bodyLength h
  have hbody := bodyLength_subsOf msg
  omega

/-! ### Origins -/

/-- The messages of a queue that are marked. -/
def marked (queue : List (Message × Bool)) : List Message := (queue.filter Prod.snd).map Prod.fst

lemma marked_append (queue more : List (Message × Bool)) :
    marked (queue ++ more) = marked queue ++ marked more := by
  rw [marked, List.filter_append, List.map_append, marked, marked]

/-- Messages that are all marked, or none of them. -/
lemma marked_map (own : Bool) (msgs : List Message) :
    marked (msgs.map (·, own)) = if own then msgs else [] := by
  cases own <;> simp [marked, List.filter_map, Function.comp_def]

namespace Dispatcher

variable {τ α : Type} (d : Dispatcher τ α)

/-- The marked queue after a round: what an aggregate adds has its mark, and nothing that came off the
wire has one. -/
def markRound (s : Session τ) (queue : List (Message × Bool)) : List (Message × Bool) :=
  match s.serving, queue with
  | none, _ => queue
  | some (msg, _), [] => (subsOf msg).map (·, false)
  | some (msg, _), (_, own) :: rest => rest ++ (subsOf msg).map (·, own)

/-- The message that a round dispatches, if it is marked. -/
def drain (s : Session τ) (queue : List (Message × Bool)) : List Message :=
  match s.serving, queue with
  | some (msg, _), (_, true) :: _ => [msg]
  | _, _ => []

/-- The marked queue after rounds. -/
def markRounds : ℕ → Session τ → List (Message × Bool) → List (Message × Bool)
  | 0, _, queue => queue
  | n + 1, s, queue => markRound (d.rounds n s) (markRounds n s queue)

/-- The marked messages that rounds dispatch. -/
def drained : ℕ → Session τ → List (Message × Bool) → List Message
  | 0, _, _ => []
  | n + 1, s, queue => drained n s queue ++ drain (d.rounds n s) (d.markRounds n s queue)

variable {d} {deaf : Bool} {ends : Message → Bool} {s : Session τ} {queue : List (Message × Bool)}

/-- The marks stay with the queue. -/
lemma map_markRound (hd : d.Answering deaf ends) (hqueue : queue.map Prod.fst = s.pendingSubs) :
    (markRound s queue).map Prod.fst = (d.round s).2.pendingSubs := by
  obtain ⟨msg, rest, hserving, heffect⟩ | ⟨hserving, -, hsame, -⟩ := hd.round s
  · have hafter : (d.round s).2.pendingSubs = rest ++ subsOf msg := heffect.queue
    rw [hafter]
    obtain ⟨-, hpending⟩ | ⟨-, hpending, rfl⟩ := serving_cases hserving
    · rw [hpending] at hqueue
      obtain ⟨⟨_, own⟩, tail, rfl, rfl, rfl⟩ := List.map_eq_cons_iff.mp hqueue
      simp [markRound, hserving, Function.comp_def]
    · rw [hpending, List.map_eq_nil_iff] at hqueue
      subst hqueue
      simp [markRound, hserving, Function.comp_def]
  · have hmark : markRound s queue = queue := by
      unfold markRound
      rw [hserving]
    rw [hmark, hsame, hqueue]

/-- **A step**: a marked message that is dispatched makes the marked part shorter by fifteen, and any
other round makes it no longer. -/
lemma drain_add_le (hqueue : queue.map Prod.fst = s.pendingSubs) :
    15 * (drain s queue).length + bodyLength (marked (markRound s queue))
      ≤ bodyLength (marked queue) := by
  unfold drain markRound
  rcases hserving : s.serving with _ | ⟨msg, rest⟩
  · simp
  obtain ⟨-, hpending⟩ | ⟨-, hpending, -⟩ := serving_cases hserving
  · rw [hpending] at hqueue
    obtain ⟨⟨front, own⟩, tail, rfl, heq, -⟩ := List.map_eq_cons_iff.mp hqueue
    obtain rfl : msg = front := heq.symm
    have hbody := bodyLength_subsOf msg
    -- a marked message pays for itself and for what it puts into the queue
    cases own with
    | false =>
        have hfront : marked ((msg, false) :: tail) = marked tail := rfl
        simp only [marked_append, marked_map, hfront, List.length_nil, Bool.false_eq_true, if_false,
          List.append_nil]
        omega
    | true =>
        have hfront : marked ((msg, true) :: tail) = msg :: marked tail := rfl
        simp only [marked_append, marked_map, hfront, List.length_singleton, if_true, bodyLength_append,
          bodyLength_cons]
        omega
  · rw [hpending, List.map_eq_nil_iff] at hqueue
    subst hqueue
    simp [marked_map]

lemma map_markRounds (hd : d.Answering deaf ends) (hqueue : queue.map Prod.fst = s.pendingSubs)
    (n : ℕ) : (d.markRounds n s queue).map Prod.fst = (d.rounds n s).pendingSubs := by
  induction n with
  | zero => exact hqueue
  | succ n ih => exact map_markRound hd ih

/-- **Linear draining**: in any rounds, the marked messages that are dispatched and those that wait took
their bytes of what was marked first. -/
theorem drained_add_le (hd : d.Answering deaf ends) (hqueue : queue.map Prod.fst = s.pendingSubs)
    (n : ℕ) : 15 * (d.drained n s queue).length + bodyLength (marked (d.markRounds n s queue))
      ≤ bodyLength (marked queue) := by
  induction n with
  | zero => simp [drained, markRounds]
  | succ n ih =>
      have hstep := drain_add_le (map_markRounds hd hqueue n)
      rw [drained, markRounds, List.length_append]
      omega

/-! ### The end of the queue -/

/-- The session is over, or no message waits. -/
def Settled (s : Session τ) : Prop := s.ended = true ∨ s.pendingSubs = []

/-- A round that takes nothing off the wire serves a message that waits, and the queue is shorter by
fifteen, unless the session was settled and stays so. -/
lemma settled_or_shorter (hd : d.Answering deaf ends) (hquiet : s.arriving = none) :
    Settled s ∧ Settled (d.round s).2 ∨
      15 + bodyLength (d.round s).2.pendingSubs ≤ bodyLength s.pendingSubs := by
  obtain ⟨msg, rest, hserving, heffect⟩ | ⟨hserving, -, hsame, -⟩ := hd.round s
  · obtain ⟨-, hpending⟩ | ⟨harriving, -⟩ := serving_cases hserving
    · have hafter : (d.round s).2.pendingSubs = rest ++ subsOf msg := heffect.queue
      have hbody := bodyLength_subsOf msg
      refine .inr ?_
      rw [hafter, hpending, bodyLength_append, bodyLength_cons]
      omega
    · rw [hquiet] at harriving
      cases harriving
  · left
    by_cases hended : s.ended = true
    · exact ⟨.inl hended, .inl (by rw [d.round_of_ended hended]; exact hended)⟩
    · have hpending : s.pendingSubs = [] := by
        rw [serving, if_neg hended] at hserving
        rcases hqueue : s.pendingSubs with _ | ⟨sub, rest⟩
        · rfl
        · simp [hqueue] at hserving
      exact ⟨.inr hpending, .inr (hsame.trans hpending)⟩

/-- Rounds that take nothing off the wire settle the session, or take their share of the queue. -/
lemma settled_of_quiet (hd : d.Answering deaf ends) (s : Session τ) (n : ℕ)
    (hquiet : d.received n s = []) :
    Settled (d.rounds n s) ∨
      15 * n + bodyLength (d.rounds n s).pendingSubs ≤ bodyLength s.pendingSubs := by
  induction n with
  | zero => exact .inr (by simp [rounds])
  | succ n ih =>
      rw [received, List.append_eq_nil_iff, Option.toList_eq_nil_iff] at hquiet
      obtain ⟨hbefore, hnow⟩ := hquiet
      rw [rounds]
      rcases settled_or_shorter hd hnow with ⟨-, hsettled⟩ | hshorter
      · exact .inl hsettled
      · rcases ih hbefore with hsettled | hlong
        · rcases hsettled with hended | hempty
          · exact .inl (.inl (by rw [d.round_of_ended hended]; exact hended))
          · rw [hempty, bodyLength_nil] at hshorter
            omega
        · exact .inr (by omega)

end Dispatcher

/-- **Draining**: whatever message a publish session serves, in the queue or off the wire.  The calls
that follow dispatch, of the messages that come from it through any aggregates in it, at most one for
every fifteen bytes of its payload; if nothing waited behind it, as many calls and one more come to the
end of the queue or of the session, when they take nothing off the wire; and every message of an
aggregate is shorter than the aggregate. -/
theorem RtmpSession.aggregate_drains {s : RtmpSession} {agg : Message} {rest : List Message}
    (hserving : s.serving = some (agg, rest)) :
    let t := (dispatcher.round s).2
    let queue := rest.map (·, false) ++ (subsOf agg).map (·, true)
    (∀ n, (dispatcher.markRounds n t queue).map Prod.fst = (dispatcher.rounds n t).pendingSubs) ∧
      (∀ k, (dispatcher.calls k t).2 = dispatcher.rounds (dispatcher.callRounds k t) t ∧
        (dispatcher.drained (dispatcher.callRounds k t) t queue).length ≤ agg.payload.length / 15) ∧
      (rest = [] → ∀ k, agg.payload.length / 15 < k →
        dispatcher.received (dispatcher.callRounds k t) t = [] →
        (dispatcher.calls k t).2.ended = true ∨ (dispatcher.calls k t).2.pendingSubs = []) ∧
      ∀ msg, ∀ sub ∈ subsOf msg, sub.payload.length < msg.payload.length := by
  intro t queue
  have hqueue : queue.map Prod.fst = t.pendingSubs := by
    obtain ⟨msg, rest', hserving', heffect⟩ | ⟨hserving', -⟩ := answering.round s
    · rw [hserving] at hserving'
      cases hserving'
      have hafter : t.pendingSubs = rest ++ subsOf agg := heffect.queue
      rw [hafter]
      simp [queue, Function.comp_def]
    · rw [hserving] at hserving'
      cases hserving'
  -- at the start the marked ones are the members
  have hmarked : marked queue = subsOf agg := by
    rw [marked_append, marked_map, marked_map]
    rfl
  have hbody := bodyLength_subsOf agg
  refine ⟨Dispatcher.map_markRounds answering hqueue, fun k => ⟨(dispatcher.calls_rounds k t).1, ?_⟩,
    fun hrest k hk hquiet => ?_, fun msg sub => subsOf_shorter⟩
  · have hlinear := Dispatcher.drained_add_le answering hqueue (dispatcher.callRounds k t)
    rw [hmarked] at hlinear
    omega
  · obtain ⟨hcalls, hle⟩ := dispatcher.calls_rounds k t
    rw [hcalls]
    refine (Dispatcher.settled_of_quiet answering t _ hquiet).resolve_right fun hlong => ?_
    have hpending : t.pendingSubs = subsOf agg := by
      rw [← hqueue]
      simp [queue, hrest, Function.comp_def]
    rw [hpending] at hlong
    omega

/-- An aggregate that holds an aggregate, which holds an empty audio message: two messages come from its
thirty bytes. -/
theorem RtmpSession.aggregate_drains_nested :
    let inner : Message := ⟨msgAudio, 1, 0, []⟩
    let nested : Message := ⟨msgAggregate, 1, 0, subBytes inner⟩
    let outer : Message := ⟨msgAggregate, 1, 0, subBytes nested⟩
    let s := RtmpSession.receiving [(csidAudio, outer)]
    let t := (dispatcher.round s).2
    outer.payload.length = 30 ∧
      (dispatcher.drained (dispatcher.callRounds 3 t) t ((subsOf outer).map (·, true))).length ≤ 2 := by
  intro inner nested outer s t
  have hserving : s.serving = some (outer, []) := by decide +kernel
  have hlen : outer.payload.length = 30 := rfl
  have hlinear := ((aggregate_drains hserving).2.1 3).2
  rw [hlen, List.map_nil, List.nil_append] at hlinear
  exact ⟨hlen, hlinear⟩

end Rtmp
