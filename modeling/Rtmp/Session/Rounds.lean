import Rtmp.Session.Dispatch

/-!
Rounds of a connection's loop, one after the other.

* `Session.serving`: the message the next round serves, out of the queue or off the wire (`arriving`);
* `Dispatcher.Rounded`: everything a round can come to, by the message it serves;
* `Dispatcher.rounds`: the session after some rounds, with the messages they took off the wire
  (`received`) and those they served (`served`);
* `Dispatcher.callRounds`: how many rounds calls in a row are.
-/

namespace Rtmp

namespace Session

variable {τ : Type}

/-- The message the next round takes off the wire, if there is one. -/
def arriving (s : Session τ) : Option Message :=
  if s.ended ∨ s.pendingSubs ≠ [] then none
  else (ChunkReader.readMessage.run s.reader).1.toOption

/-- The message the next round serves, and what waits behind it. -/
def serving (s : Session τ) : Option (Message × List Message) :=
  if s.ended then none
  else
    match s.pendingSubs with
    | sub :: rest => some (sub, rest)
    | [] => s.arriving.map fun msg => (msg, [])

end Session

namespace Dispatcher

open Session

variable {τ α : Type} (d : Dispatcher τ α)

lemma snd_settle (p : Except Error (Option α) × Session τ) : (settle p).2 = p.2 := by
  rcases p with ⟨_ | _ | ev, t⟩ <;> rfl

/-! ### One round -/

/-- What a round comes to: the session is over, a message is served, or the reader fails. -/
inductive Rounded (s : Session τ) : Option (Message × List Message) →
    Option (Except Error (Option α)) × Session τ → Prop
  | ended (h : s.ended = true) : Rounded s none (some (.ok none), s)
  | sub {msg : Message} {rest : List Message} (hopen : s.ended = false)
      (hqueue : s.pendingSubs = msg :: rest) :
      Rounded s (some (msg, rest)) (settle ((d.onSub msg).run (s.withQueue rest)))
  | read {msg : Message} {r : ChunkReader} (hopen : s.ended = false) (hqueue : s.pendingSubs = [])
      (hread : ChunkReader.readMessage.run s.reader = (.ok msg, r)) :
      Rounded s (some (msg, [])) (settle ((d.serve msg).run (s.withReader r)))
  | closes {e : Error} {r : ChunkReader} (hopen : s.ended = false) (hqueue : s.pendingSubs = [])
      (hread : ChunkReader.readMessage.run s.reader = (.error e, r)) (hcloses : d.closes e = true) :
      Rounded s none (some (.ok none), d.latch (s.withReader r))
  | fails {e : Error} {r : ChunkReader} (hopen : s.ended = false) (hqueue : s.pendingSubs = [])
      (hread : ChunkReader.readMessage.run s.reader = (.error e, r)) :
      Rounded s none (some (.error e), s.withReader r)

/-- **Every round** comes to one of these. -/
theorem rounded (s : Session τ) : d.Rounded s s.serving (d.round s) := by
  by_cases hended : s.ended = true
  · rw [serving, if_pos hended, d.round_of_ended hended]
    exact .ended hended
  have hopen : s.ended = false := eq_false_of_ne_true hended
  rcases hqueue : s.pendingSubs with _ | ⟨sub, rest⟩
  · have harriving : s.arriving = (ChunkReader.readMessage.run s.reader).1.toOption := by
      rw [arriving, if_neg fun h => h.elim hended fun hne => hne hqueue]
    have hserving : s.serving = s.arriving.map fun msg => (msg, []) := by
      rw [serving, if_neg hended, hqueue]
    rw [hserving, harriving]
    rcases hread : ChunkReader.readMessage.run s.reader with ⟨e | msg, r⟩
    · rw [d.round_of_error hopen hqueue hread]
      by_cases hcloses : d.closes e = true
      · rw [if_pos hcloses]
        exact .closes hopen hqueue hread hcloses
      · rw [if_neg hcloses]
        exact .fails hopen hqueue hread
    · rw [d.round_of_read hopen hqueue hread]
      exact .read hopen hqueue hread
  · have hserving : s.serving = some (sub, rest) := by
      rw [serving, if_neg hended, hqueue]
    rw [hserving, d.round_of_sub hopen hqueue]
    exact .sub hopen hqueue

/-- A round that serves nothing takes nothing off the wire. -/
lemma arriving_of_serving {s : Session τ} (h : s.serving = none) : s.arriving = none := by
  rw [serving] at h
  by_cases hended : s.ended = true
  · rw [arriving, if_pos (.inl hended)]
  · rw [if_neg hended] at h
    rcases hqueue : s.pendingSubs with _ | ⟨sub, rest⟩
    · simpa only [hqueue, Option.map_eq_none_iff] using h
    · simp only [hqueue, reduceCtorEq] at h

/-- A round that serves something is in a session that is not over. -/
lemma open_of_serving {s : Session τ} {msg : Message} {rest : List Message}
    (h : s.serving = some (msg, rest)) : s.ended = false := by
  rw [serving] at h
  split_ifs at h with hended
  exact eq_false_of_ne_true hended

/-- What a round serves was at the front of the queue, or came off the wire. -/
lemma serving_cases {s : Session τ} {msg : Message} {rest : List Message}
    (hserving : s.serving = some (msg, rest)) :
    s.arriving = none ∧ s.pendingSubs = msg :: rest ∨
      s.arriving = some msg ∧ s.pendingSubs = [] ∧ rest = [] := by
  rw [serving] at hserving
  split_ifs at hserving with hended
  rcases hqueue : s.pendingSubs with _ | ⟨sub, queue⟩
  · simp only [hqueue, Option.map_eq_some_iff, Prod.mk.injEq] at hserving
    obtain ⟨msg', harriving, rfl, rfl⟩ := hserving
    exact .inr ⟨harriving, rfl, rfl⟩
  · simp only [hqueue, Option.some.injEq, Prod.mk.injEq] at hserving
    obtain ⟨rfl, rfl⟩ := hserving
    refine .inl ⟨?_, rfl⟩
    rw [arriving, if_pos (.inr (by rw [hqueue]; exact List.cons_ne_nil _ _))]

/-! ### Rounds in a row -/

/-- The session after `n` rounds, whatever they returned. -/
def rounds : ℕ → Session τ → Session τ
  | 0, s => s
  | n + 1, s => (d.round (rounds n s)).2

/-- The messages that `n` rounds took off the wire. -/
def received : ℕ → Session τ → List Message
  | 0, _ => []
  | n + 1, s => received n s ++ (d.rounds n s).arriving.toList

/-- The messages that `n` rounds served. -/
def served : ℕ → Session τ → List Message
  | 0, _ => []
  | n + 1, s => served n s ++ ((d.rounds n s).serving.map Prod.fst).toList

lemma rounds_add (n k : ℕ) (s : Session τ) : d.rounds k (d.rounds n s) = d.rounds (n + k) s := by
  induction k with
  | zero => rfl
  | succ k ih => rw [rounds, ih, Nat.add_succ, rounds]

/-- How many rounds a call is. -/
def roundsOf (s : Session τ) : ℕ :=
  match _h : d.round s with
  | (some _, _) => 1
  | (none, s') => roundsOf s' + 1
termination_by (s.reader.stream.length, weight s.pendingSubs)
decreasing_by exact d.round_shrinks _h

lemma roundsOf_eq (s : Session τ) :
    d.roundsOf s = match d.round s with
      | (some _, _) => 1
      | (none, s') => d.roundsOf s' + 1 := by
  rw [roundsOf]
  rcases d.round s with ⟨_ | out, s'⟩ <;> rfl

/-- A call is its rounds, and there is one at least. -/
lemma next_rounds (s : Session τ) : (d.next s).2 = d.rounds (d.roundsOf s) s ∧ 1 ≤ d.roundsOf s := by
  induction s using d.next_induct with
  | h s ih =>
      rw [next_eq, roundsOf_eq]
      rcases hround : d.round s with ⟨_ | out, s'⟩
      · obtain ⟨hnext, -⟩ := ih s' hround
        have hfirst : d.rounds 1 s = s' := by rw [rounds, rounds, hround]
        refine ⟨?_, Nat.le_add_left 1 _⟩
        simp only
        rw [hnext, Nat.add_comm, ← rounds_add, hfirst]
      · exact ⟨by rw [rounds, rounds, hround], le_refl 1⟩

/-- How many rounds calls in a row are. -/
def callRounds : ℕ → Session τ → ℕ
  | 0, _ => 0
  | n + 1, s => d.roundsOf s + callRounds n (d.next s).2

/-- Calls in a row are their rounds, and each of them is one at least. -/
lemma calls_rounds (n : ℕ) (s : Session τ) :
    (d.calls n s).2 = d.rounds (d.callRounds n s) s ∧ n ≤ d.callRounds n s := by
  induction n generalizing s with
  | zero => exact ⟨rfl, le_refl 0⟩
  | succ n ih =>
      obtain ⟨hnext, hone⟩ := d.next_rounds s
      obtain ⟨hcalls, hle⟩ := ih (d.next s).2
      rw [calls, callRounds]
      refine ⟨?_, by omega⟩
      rw [hcalls, hnext, rounds_add]

/-- Calls in a row are some rounds. -/
lemma exists_rounds_calls (n : ℕ) (s : Session τ) : ∃ k, (d.calls n s).2 = d.rounds k s :=
  ⟨_, (d.calls_rounds n s).1⟩

end Dispatcher

end Rtmp
