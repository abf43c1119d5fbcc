import Rtmp.Chunk.RoundTrip
import Rtmp.Session.Alike

/-!
What arrives at a connection, and what its calls return for it.

* `ChunkReader.Delivers`: the wire holds exactly the given messages;
* `delivers_sent`: so it does when a writer in step with the reader sent them;
* `Dispatcher.Returns`: the rounds that lead from one state to another return the given results;
* `Dispatcher.Returns.calls`: calls return them one by one.
-/

namespace Rtmp

namespace ChunkReader

/-- The stream holds exactly these messages, one after the other. -/
inductive Delivers : ChunkReader → List Message → Prop
  | nil {r : ChunkReader} (h : r.stream = []) : Delivers r []
  | cons {r r' : ChunkReader} {msg : Message} {msgs : List Message}
      (h : readMessage.run r = (.ok msg, r')) (hrest : Delivers r' msgs) : Delivers r (msg :: msgs)

/-- Bookkeeping does not change what the stream holds. -/
lemma Delivers.alike {r r' : ChunkReader} {msgs : List Message} (h : Delivers r msgs)
    (hr : Alike r r') : Delivers r' msgs := by
  induction h generalizing r' with
  | nil hnil => exact .nil (hr.stream ▸ hnil)
  | cons hread _ ih =>
      obtain ⟨hout, hend⟩ := readMessage_alike _ _ hr
      rw [hread] at hout hend
      rcases hread' : readMessage.run r' with ⟨out, r''⟩
      rw [hread'] at hout hend
      cases hout
      exact .cons hread' (ih hend)

/-- Nothing is read at the end of the stream. -/
lemma readMessage_nil {r : ChunkReader} (h : r.stream = []) :
    readMessage.run r = (.error (.io .unexpectedEof), r) := by
  have hfirst : (readExactCounted 1).run r = (.error (.io .unexpectedEof), r) := by
    rw [run_readExactCounted, h]
    simp only [readExact]
    rw [← h]
  have hbasic : readBasicHeader.run r = (.error (.io .unexpectedEof), r) := Eff.run_bind_error hfirst
  exact readMessage_of_error (Eff.run_bind_error hbasic)

end ChunkReader

open ChunkReader ChunkWriter

/-- The messages of a list, each on a chunk stream, as operations of a writer. -/
def sends (msgs : List (UInt32 × Message)) : List ChunkOp := msgs.map fun p => .message p.1 p.2

/-- The chunk stream can be named, and the payload has a length that fits its header. -/
def Sendable (p : UInt32 × Message) : Prop :=
  (2 ≤ p.1.toNat ∧ p.1.toNat ≤ 65599) ∧ p.2.payload.length < 2 ^ 24

instance : DecidablePred Sendable := fun p =>
  inferInstanceAs (Decidable ((2 ≤ p.1.toNat ∧ p.1.toNat ≤ 65599) ∧ p.2.payload.length < 2 ^ 24))

/-- **Delivery**: a reader in step with a writer holds what the writer sends. -/
theorem delivers_sent {msgs : List (UInt32 × Message)} (hmsgs : ∀ p ∈ msgs, Sendable p)
    (w : ChunkWriter) :
    ∃ bs w', (sendAll (sends msgs)).run w = (.ok (), w') ∧ w'.stream = w.stream ++ bs ∧
      ∀ r, Synced w r → r.stream = ReadEvent.bytes bs → Delivers r (msgs.map Prod.snd) := by
  induction msgs generalizing w with
  | nil => exact ⟨[], w, rfl, (List.append_nil _).symm, fun r _ hr => .nil hr⟩
  | cons p msgs ih =>
      obtain ⟨⟨hlo, hhi⟩, hlen⟩ := hmsgs p List.mem_cons_self
      obtain ⟨bs₁, w₁, hsend₁, hw₁, -, hread₁⟩ := writeMessage_synced (w := w) hlo hhi hlen
      obtain ⟨bs₂, w₂, hsend₂, hw₂, hrest⟩ := ih (fun q h => hmsgs q (List.mem_cons_of_mem _ h)) w₁
      refine ⟨bs₁ ++ bs₂, w₂, ?_, ?_, fun r hsync hr => ?_⟩
      · rw [sends, List.map_cons, sendAll, Eff.run_bind_ok hsend₁]
        exact hsend₂
      · rw [hw₂, hw₁, List.append_assoc]
      · rw [ReadEvent.bytes_append] at hr
        obtain ⟨r₁, hrun₁, hes₁, hsync₁⟩ := hread₁ r _ hsync hr
        exact .cons hrun₁ (hrest r₁ hsync₁ hes₁)

/-- The bytes a fresh writer sends. -/
def sent (msgs : List (UInt32 × Message)) : List UInt8 :=
  ((sendAll (sends msgs)).run ChunkWriter.new).2.stream

/-- A fresh reader holds what a fresh writer sent. -/
lemma delivers_fresh {msgs : List (UInt32 × Message)} (hmsgs : ∀ p ∈ msgs, Sendable p) :
    Delivers (ChunkReader.new (ReadEvent.bytes (sent msgs))) (msgs.map Prod.snd) := by
  obtain ⟨bs, w, hsend, hw, hread⟩ := delivers_sent hmsgs ChunkWriter.new
  have hsent : sent msgs = bs := by
    rw [sent, hsend]
    exact hw
  rw [hsent]
  exact hread _ (synced_new _) rfl

namespace Dispatcher

variable {τ α : Type} {d : Dispatcher τ α} {s t u : Session τ}
  {outs outs' : List (Except Error (Option α))}

/-- Rounds lead from the first state to the second, and these are the results they had. -/
inductive Returns (d : Dispatcher τ α) :
    Session τ → List (Except Error (Option α)) → Session τ → Prop
  | refl {s : Session τ} : Returns d s [] s
  | silent {s s' t : Session τ} {outs : List (Except Error (Option α))}
      (h : d.round s = (none, s')) (hrest : Returns d s' outs t) : Returns d s outs t
  | result {s s' t : Session τ} {out : Except Error (Option α)}
      {outs : List (Except Error (Option α))} (h : d.round s = (some out, s'))
      (hrest : Returns d s' outs t) : Returns d s (out :: outs) t

lemma Returns.trans (h : Returns d s outs t) (h' : Returns d t outs' u) :
    Returns d s (outs ++ outs') u := by
  induction h with
  | refl => exact h'
  | silent hround _ ih => exact .silent hround (ih h')
  | result hround _ ih => exact .result hround (ih h')

/-- A round without a result is part of the next call. -/
lemma calls_of_none (h : d.round s = (none, t)) (n : ℕ) : (d.calls n s).1 = (d.calls n t).1 := by
  cases n with
  | zero => rfl
  | succ n => rw [calls, calls, d.next_of_none h]

/-- **Calls return the results** that the rounds have, and go on from the state they lead to. -/
theorem Returns.calls (h : Returns d s outs t) (n : ℕ) :
    (d.calls (outs.length + n) s).1 = outs ++ (d.calls n t).1 := by
  induction h with
  | refl => rw [List.length_nil, Nat.zero_add, List.nil_append]
  | silent hround _ ih => rw [calls_of_none hround, ih]
  | @result s s' t out outs hround _ ih =>
      have hnext := d.next_of_some hround
      have hlen : (out :: outs).length + n = (outs.length + n) + 1 := by
        rw [List.length_cons]
        omega
      rw [hlen, Dispatcher.calls, hnext]
      exact congrArg (out :: ·) ih

lemma length_calls (n : ℕ) (s : Session τ) : (d.calls n s).1.length = n := by
  induction n generalizing s with
  | zero => rfl
  | succ n ih => rw [calls, List.length_cons, ih]

/-- The first calls do not depend on how many follow. -/
lemma take_calls (n m : ℕ) (s : Session τ) : (d.calls (n + m) s).1.take n = (d.calls n s).1 := by
  induction n generalizing s with
  | zero => rfl
  | succ n ih => rw [Nat.succ_add, calls, calls, List.take_succ_cons, ih]

/-- A round that returns nothing new and goes nowhere is repeated by every call. -/
lemma calls_of_fixed {out : Except Error (Option α)} (h : d.round s = (some out, s)) (n : ℕ) :
    (d.calls n s).1 = List.replicate n out := by
  induction n with
  | zero => rfl
  | succ n ih => rw [calls, d.next_of_some h, ih, List.replicate_succ]

/-- A wire that has been read to its end: calls return what was on it, and then nothing. -/
lemma Returns.calls_eof (h : Returns d s outs t) (hend : d.round t = (some (.ok none), t)) (n : ℕ) :
    (d.calls n s).1 = (outs ++ List.replicate n (Except.ok none)).take n := by
  rw [← calls_of_fixed hend, ← h.calls n, Nat.add_comm outs.length n, take_calls]

end Dispatcher

end Rtmp
