import Mathlib.Logic.Relation
import Mathlib.Data.Vector.Basic
import Mathlib.Tactic

/-!
Two parties and the two channels between them.

* `EndsIn`: every run ends, and ends in one place; with the diamond property one run is enough to know
  it (`EndsIn.of_run`);
* `Proc`: a program that puts and gets single items, as a monad; `writeAll` and `readExact` are its
  loops;
* `Proc.run`: what a program does with an input, whoever wrote it;
* `Machine`, `Net`, `Step`: two parties of any kind, each with its end of two channels of bounded
  capacity, one item at a time and in any order;
* **`diamond_step`**: the order does not matter;
* `handover`, `flush`, `drain`: runs of the two loops; `cross`, `cross_full`: when two parties that
  both put first get by;
* `exists_transcripts`: what two programs do together, each does by itself on what the other has put.
-/

namespace Duplex

open Relation

/-! ### Systems whose runs all end alike -/

section EndsIn

variable {α : Type} {r : α → α → Prop} {a b z : α}

/-- Two steps from one place are the same or can each be followed by one to a common place. -/
def Diamond (r : α → α → Prop) : Prop := ∀ ⦃a b c⦄, r a b → r a c → b = c ∨ ∃ d, r b d ∧ r c d

/-- No run from `a` goes on for ever, and all that cannot go on have ended in `z`. -/
structure EndsIn (r : α → α → Prop) (a z : α) : Prop where
  acc : Acc (flip r) a
  final : ∀ b, ¬ r z b
  reach : ∀ b, ReflTransGen r a b → ReflTransGen r b z

namespace EndsIn

lemma refl (h : ∀ b, ¬ r z b) : EndsIn r z z := by
  refine ⟨⟨_, fun b hb => absurd hb (h b)⟩, h, fun b hb => ?_⟩
  cases hb.cases_head with
  | inl heq => rw [heq]
  | inr hstep =>
      obtain ⟨c, hc, -⟩ := hstep
      exact absurd hc (h c)

/-- A place is reached in one step only by places that end alike. -/
lemma head (hd : Diamond r) (hab : r a b) (h : EndsIn r b z) : EndsIn r a z := by
  obtain ⟨hacc, hfinal, hreach⟩ := h
  induction hacc generalizing a with
  | intro b hb ih =>
      have hother : ∀ c, r a c → Acc (flip r) c ∧ ∀ e, ReflTransGen r c e → ReflTransGen r e z := by
        intro c hac
        obtain rfl | ⟨d, hbd, hcd⟩ := hd hab hac
        · exact ⟨⟨_, hb⟩, hreach⟩
        · have hc := ih d hbd hcd fun e he => hreach e (.head hbd he)
          exact ⟨hc.acc, hc.reach⟩
      refine ⟨⟨_, fun c hc => (hother c hc).1⟩, hfinal, fun e he => ?_⟩
      cases he.cases_head with
      | inl heq => exact heq ▸ .head hab (hreach b .refl)
      | inr hstep =>
          obtain ⟨c, hac, hce⟩ := hstep
          exact (hother c hac).2 e hce

/-- **One run is enough** to know them all. -/
theorem of_run (hd : Diamond r) (h : ReflTransGen r a b) (hb : EndsIn r b z) : EndsIn r a z := by
  induction h using ReflTransGen.head_induction_on with
  | refl => exact hb
  | head hstep _ ih => exact ih.head hd hstep

/-- A run takes nothing away from what can still happen. -/
lemma iff_of_run (hd : Diamond r) (h : ReflTransGen r a b) : EndsIn r a z ↔ EndsIn r b z := by
  refine ⟨fun ha => ⟨?_, ha.final, fun c hc => ha.reach c (h.trans hc)⟩, of_run hd h⟩
  induction h with
  | refl => exact ha.acc
  | tail _ hstep ih => exact ih.inv hstep

/-- All runs that end do so in the same place. -/
lemma unique {z' : α} (h : EndsIn r a z) (h' : EndsIn r a z') : z = z' := by
  have hrun := h'.reach z (h.reach a .refl)
  cases hrun.cases_head with
  | inl heq => exact heq
  | inr hstep =>
      obtain ⟨c, hc, -⟩ := hstep
      exact absurd hc (h.final c)

end EndsIn

end EndsIn

/-! ### Programs -/

/-- A program that ends in a value, puts an item, or waits for one. -/
inductive Proc (β : Type) (α : Type) where
  | halt (a : α)
  | put (b : β) (next : Proc β α)
  | get (next : β → Proc β α)

namespace Proc

variable {β α γ δ : Type}

protected def bind : Proc β α → (α → Proc β γ) → Proc β γ
  | halt a, f => f a
  | put b next, f => put b (next.bind f)
  | get next, f => get fun b => (next b).bind f

instance instMonad : Monad (Proc β) where
  pure := halt
  bind := Proc.bind

/-- Put the items, in order. -/
def writeAll : List β → Proc β Unit
  | [] => halt ()
  | b :: bs => put b (writeAll bs)

/-- Get `n` items. -/
def readExact : (n : ℕ) → Proc β (List.Vector β n)
  | 0 => halt .nil
  | n + 1 => get fun b => (readExact n).bind fun bs => halt (b ::ᵥ bs)

@[simp] lemma halt_bind (a : α) (f : α → Proc β γ) : (halt a >>= f) = f a := rfl

@[simp] lemma pure_bind (a : α) (f : α → Proc β γ) : ((pure a : Proc β α) >>= f) = f a := rfl

@[simp] lemma put_bind (b : β) (p : Proc β α) (f : α → Proc β γ) :
    (put b p >>= f) = put b (p >>= f) := rfl

@[simp] lemma get_bind (p : β → Proc β α) (f : α → Proc β γ) :
    (get p >>= f) = get fun b => p b >>= f := rfl

lemma bind_assoc (p : Proc β α) (f : α → Proc β γ) (g : γ → Proc β δ) :
    (p >>= f >>= g) = (p >>= fun a => f a >>= g) := by
  induction p with
  | halt a => rfl
  | put b p ih => rw [put_bind, put_bind, put_bind, ih]
  | get p ih => simp only [get_bind, ih]

lemma bind_pure (p : Proc β α) : (p >>= pure) = p := by
  induction p with
  | halt a => rfl
  | put b p ih => rw [put_bind, ih]
  | get p ih => simp only [get_bind, ih]

@[simp] lemma writeAll_nil_bind (f : Unit → Proc β γ) : (writeAll [] >>= f) = f () := rfl

@[simp] lemma writeAll_cons_bind (b : β) (bs : List β) (f : Unit → Proc β γ) :
    (writeAll (b :: bs) >>= f) = put b (writeAll bs >>= f) := rfl

lemma writeAll_append_bind (bs cs : List β) (f : Unit → Proc β γ) :
    (writeAll (bs ++ cs) >>= f) = (writeAll bs >>= fun _ => writeAll cs >>= f) := by
  induction bs with
  | nil => rfl
  | cons b bs ih => rw [List.cons_append, writeAll_cons_bind, writeAll_cons_bind, ih]

@[simp] lemma readExact_zero_bind (f : List.Vector β 0 → Proc β γ) : (readExact 0 >>= f) = f .nil := rfl

lemma readExact_succ_bind {n : ℕ} (f : List.Vector β (n + 1) → Proc β γ) :
    (readExact (n + 1) >>= f) = get fun b => readExact n >>= fun bs => f (b ::ᵥ bs) :=
  congrArg get (funext fun _ => bind_assoc (readExact n) _ f)

/-! ### A program and its input -/

/-- What a program puts when it gets the items of `input`, and the value it ends in with what it has not
got of them; there is none if it waits for more than there is. -/
def run : Proc β α → List β → List β × Option (α × List β)
  | halt a, input => ([], some (a, input))
  | put b p, input => ((b :: (run p input).1), (run p input).2)
  | get _, [] => ([], none)
  | get p, b :: input => run (p b) input

@[simp] lemma run_halt (a : α) (input : List β) : run (halt a) input = ([], some (a, input)) := rfl

@[simp] lemma run_pure (a : α) (input : List β) :
    run (pure a : Proc β α) input = ([], some (a, input)) := rfl

lemma run_writeAll_bind (bs : List β) (f : Unit → Proc β γ) (input : List β) :
    run (writeAll bs >>= f) input = (bs ++ (run (f ()) input).1, (run (f ()) input).2) := by
  induction bs with
  | nil => rfl
  | cons b bs ih => rw [writeAll_cons_bind, run, ih, List.cons_append]

lemma run_readExact_bind {n : ℕ} (v : List.Vector β n) (f : List.Vector β n → Proc β γ)
    (input : List β) : run (readExact n >>= f) (v.toList ++ input) = run (f v) input := by
  induction n with
  | zero =>
      obtain rfl := v.eq_nil
      rfl
  | succ n ih =>
      obtain ⟨b, bs, rfl⟩ := v.exists_eq_cons
      rw [readExact_succ_bind, List.Vector.toList_cons, List.cons_append, run, ih]

lemma run_bind_pure (p : Proc β α) (f : α → γ) (input : List β) :
    run (p >>= fun a => pure (f a)) input
      = ((run p input).1, (run p input).2.map fun r => (f r.1, r.2)) := by
  induction p generalizing input with
  | halt a => rfl
  | put b p ih => rw [put_bind, run, ih, run]
  | get p ih =>
      cases input with
      | nil => rfl
      | cons b input => rw [get_bind, run, ih, run]

/-- An input that is long enough is split. -/
lemma exists_run_readExact_bind {n : ℕ} {input : List β} (h : n ≤ input.length) :
    ∃ v : List.Vector β n, input = v.toList ++ input.drop n ∧
      ∀ f : List.Vector β n → Proc β γ, run (readExact n >>= f) input = run (f v) (input.drop n) := by
  obtain ⟨v, hv⟩ : ∃ v : List.Vector β n, v.toList = input.take n :=
    ⟨⟨input.take n, List.length_take_of_le h⟩, rfl⟩
  have hsplit : v.toList ++ input.drop n = input := by rw [hv, List.take_append_drop]
  refine ⟨v, hsplit.symm, fun f => ?_⟩
  rw [← run_readExact_bind, hsplit]

/-- Nothing is put by a program that only gets. -/
lemma run_readExact_bind_pure {n : ℕ} (f : List.Vector β n → γ) (input : List β) :
    (run (readExact n >>= fun v => pure (f v)) input).1 = [] := by
  induction n generalizing input with
  | zero => rfl
  | succ n ih =>
      rw [readExact_succ_bind]
      cases input with
      | nil => rfl
      | cons b input => exact ih (fun bs => f (b ::ᵥ bs)) input

/-- Too short an input is used up without anything being put. -/
lemma run_readExact_bind_of_lt {n : ℕ} {input : List β} (h : input.length < n)
    (f : List.Vector β n → Proc β γ) : run (readExact n >>= f) input = ([], none) := by
  induction n generalizing input with
  | zero => omega
  | succ n ih =>
      rw [readExact_succ_bind]
      cases input with
      | nil => rfl
      | cons b input =>
          rw [List.length_cons] at h
          rw [run, ih (by omega)]

end Proc

/-! ### Two parties -/

/-- What a party does next. -/
inductive Act (β σ : Type) where
  | halt
  | put (b : β) (next : σ)
  | get (next : β → σ)

/-- A kind of party, by what its states do next. -/
class Machine (β : outParam Type) (σ : Type) where
  act : σ → Act β σ

instance Proc.instMachine {β α : Type} : Machine β (Proc β α) where
  act
    | .halt _ => .halt
    | .put b next => .put b next
    | .get next => .get next

lemma Proc.eq_put {β α : Type} {p next : Proc β α} {b : β} (h : Machine.act p = .put b next) :
    p = .put b next := by
  cases p with
  | halt a => cases h
  | put c p =>
      cases h
      rfl
  | get f => cases h

lemma Proc.eq_get {β α : Type} {p : Proc β α} {next : β → Proc β α} (h : Machine.act p = .get next) :
    p = .get next := by
  cases p with
  | halt a => cases h
  | put c p => cases h
  | get f =>
      cases h
      rfl

/-- Two parties, and what is on the way to each of them. -/
structure Net (β σ τ : Type) where
  left : σ
  right : τ
  toRight : List β
  toLeft : List β

namespace Net

section Machines

variable {β σ τ : Type} [Machine β σ] [Machine β τ] {capR capL : ℕ∞}

/-- The same with the parties exchanged. -/
def swap (c : Net β σ τ) : Net β τ σ := ⟨c.right, c.left, c.toLeft, c.toRight⟩

/-- One of the parties puts an item on its way, if the channel has room for it, or gets the next one
that has arrived. -/
inductive Step (capR capL : ℕ∞) : Net β σ τ → Net β σ τ → Prop
  | leftPut {p q r l b p'} (h : Machine.act p = .put b p') (hroom : (r.length : ℕ∞) < capR) :
      Step capR capL ⟨p, q, r, l⟩ ⟨p', q, r ++ [b], l⟩
  | leftGet {p q r l b f} (h : Machine.act p = .get f) :
      Step capR capL ⟨p, q, r, b :: l⟩ ⟨f b, q, r, l⟩
  | rightPut {p q r l b q'} (h : Machine.act q = .put b q') (hroom : (l.length : ℕ∞) < capL) :
      Step capR capL ⟨p, q, r, l⟩ ⟨p, q', r, l ++ [b]⟩
  | rightGet {p q r l b f} (h : Machine.act q = .get f) :
      Step capR capL ⟨p, q, b :: r, l⟩ ⟨p, f b, r, l⟩

lemma Step.swap {c d : Net β σ τ} (h : Step capR capL c d) : Step capL capR c.swap d.swap := by
  cases h with
  | leftPut h hroom => exact .rightPut h hroom
  | leftGet h => exact .rightGet h
  | rightPut h hroom => exact .leftPut h hroom
  | rightGet h => exact .leftGet h

/-- A channel that loses an item keeps its room. -/
lemma room_of_cons {b : β} {r : List β} (h : ((b :: r).length : ℕ∞) < capR) : (r.length : ℕ∞) < capR :=
  lt_of_le_of_lt (Nat.cast_le.mpr (by rw [List.length_cons]; omega)) h

/-- **The order does not matter**: what one party does leaves the other what it can do. -/
theorem diamond_step : Diamond (Step (β := β) (σ := σ) (τ := τ) capR capL) := by
  intro a b c hb hc
  cases hb with
  | leftPut h hroom =>
      -- the same step twice, or two at different ends of the channels
      cases hc with
      | leftPut h' _ =>
          rw [h] at h'
          cases h'
          exact .inl rfl
      | leftGet h' =>
          rw [h] at h'
          cases h'
      | rightPut h' hroom' => exact .inr ⟨_, .rightPut h' hroom', .leftPut h hroom⟩
      | rightGet h' => exact .inr ⟨_, .rightGet h', .leftPut h (room_of_cons hroom)⟩
  | leftGet h =>
      cases hc with
      | leftPut h' _ =>
          rw [h] at h'
          cases h'
      | leftGet h' =>
          rw [h] at h'
          cases h'
          exact .inl rfl
      | rightPut h' hroom' => exact .inr ⟨_, .rightPut h' (room_of_cons hroom'), .leftGet h⟩
      | rightGet h' => exact .inr ⟨_, .rightGet h', .leftGet h⟩
  | rightPut h hroom =>
      cases hc with
      | leftPut h' hroom' => exact .inr ⟨_, .leftPut h' hroom', .rightPut h hroom⟩
      | leftGet h' => exact .inr ⟨_, .leftGet h', .rightPut h (room_of_cons hroom)⟩
      | rightPut h' _ =>
          rw [h] at h'
          cases h'
          exact .inl rfl
      | rightGet h' =>
          rw [h] at h'
          cases h'
  | rightGet h =>
      cases hc with
      | leftPut h' hroom' => exact .inr ⟨_, .leftPut h' (room_of_cons hroom'), .rightGet h⟩
      | leftGet h' => exact .inr ⟨_, .leftGet h', .rightGet h⟩
      | rightPut h' _ =>
          rw [h] at h'
          cases h'
      | rightGet h' =>
          rw [h] at h'
          cases h'
          exact .inl rfl

/-- A run, in which the parties take turns as they like. -/
abbrev Run (capR capL : ℕ∞) : Net β σ τ → Net β σ τ → Prop := ReflTransGen (Step capR capL)

lemma Run.swap {c d : Net β σ τ} (h : Run capR capL c d) : Run capL capR c.swap d.swap :=
  ReflTransGen.lift Net.swap (fun _ _ => Step.swap) _ _ h

/-- Two parties that have halted. -/
lemma final_of_halt {p : σ} {q : τ} {r l : List β} (hp : Machine.act p = .halt)
    (hq : Machine.act q = .halt) (d : Net β σ τ) : ¬ Step capR capL ⟨p, q, r, l⟩ d := by
  intro h
  cases h with
  | leftPut h _ => rw [hp] at h; cases h
  | leftGet h => rw [hp] at h; cases h
  | rightPut h _ => rw [hq] at h; cases h
  | rightGet h => rw [hq] at h; cases h

end Machines

/-! ### Runs of the loops -/

section Runs

variable {β α γ : Type} {capR capL : ℕ∞} {n : ℕ} {r l : List β}

/-- What the channel has room for can be put without the other party. -/
lemma flush {bs : List β} (h : ((r.length + bs.length : ℕ) : ℕ∞) ≤ capR) (p : Unit → Proc β α)
    (q : Proc β γ) :
    Run capR capL ⟨Proc.writeAll bs >>= p, q, r, l⟩ ⟨p (), q, r ++ bs, l⟩ := by
  induction bs generalizing r with
  | nil => rw [List.append_nil]; exact .refl
  | cons b bs ih =>
      have hlen : (r ++ [b]).length + bs.length = r.length + (b :: bs).length := by
        rw [List.length_append, List.length_cons, List.length_nil, List.length_cons]
        omega
      have hrest := ih (r := r ++ [b]) (hlen ▸ h)
      rw [List.append_assoc, List.singleton_append] at hrest
      have hroom : (r.length : ℕ∞) < capR :=
        lt_of_lt_of_le (Nat.cast_lt.mpr (by rw [List.length_cons]; omega)) h
      exact .head (.leftPut rfl hroom) hrest

/-- What has arrived can be got without the other party. -/
lemma drain (v : List.Vector β n) (p : Proc β α) (q : List.Vector β n → Proc β γ) :
    Run capR capL ⟨p, Proc.readExact n >>= q, v.toList ++ r, l⟩ ⟨p, q v, r, l⟩ := by
  induction n with
  | zero =>
      obtain rfl := v.eq_nil
      exact .refl
  | succ n ih =>
      obtain ⟨b, bs, rfl⟩ := v.exists_eq_cons
      rw [Proc.readExact_succ_bind, List.Vector.toList_cons, List.cons_append]
      exact .head (.rightGet rfl) (ih bs fun bs => q (b ::ᵥ bs))

/-- What one party puts as the other gets it needs hardly any room. -/
lemma handover (h : 0 < capR) (v : List.Vector β n) (p : Unit → Proc β α)
    (q : List.Vector β n → Proc β γ) :
    Run capR capL ⟨Proc.writeAll v.toList >>= p, Proc.readExact n >>= q, [], l⟩ ⟨p (), q v, [], l⟩ := by
  induction n with
  | zero =>
      obtain rfl := v.eq_nil
      exact .refl
  | succ n ih =>
      obtain ⟨b, bs, rfl⟩ := v.exists_eq_cons
      rw [Proc.readExact_succ_bind, List.Vector.toList_cons, Proc.writeAll_cons_bind]
      exact .head (.leftPut rfl h) (.head (.rightGet rfl) (ih bs fun bs => q (b ::ᵥ bs)))

/-- Two parties that both put more than there is room for wait for each other. -/
lemma final_full {b c : β} {p : Proc β α} {q : Proc β γ} (hr : capR ≤ (r.length : ℕ∞))
    (hl : capL ≤ (l.length : ℕ∞)) (d : Net β (Proc β α) (Proc β γ)) :
    ¬ Step capR capL ⟨.put b p, .put c q, r, l⟩ d := by
  intro h
  cases h with
  | leftPut _ hroom => exact absurd hroom hr.not_gt
  | leftGet h => cases h
  | rightPut _ hroom => exact absurd hroom hl.not_gt
  | rightGet h => cases h

section Cross

variable {m n : ℕ} (v : List.Vector β n) (w : List.Vector β m) (p : List.Vector β m → Proc β α)
  (q : List.Vector β n → Proc β γ)

/-- **Two parties that both put first** get by if one of them finds room for all it puts. -/
theorem cross (hr : 0 < capR) (hl : 0 < capL)
    (h : (n : ℕ∞) ≤ capR ∨ (m : ℕ∞) ≤ capL) :
    Run capR capL ⟨Proc.writeAll v.toList >>= fun _ => Proc.readExact m >>= p,
      Proc.writeAll w.toList >>= fun _ => Proc.readExact n >>= q, [], []⟩ ⟨p w, q v, [], []⟩ := by
  cases h with
  | inl hn =>
      have hput : Run capR capL ⟨Proc.writeAll v.toList >>= fun _ => Proc.readExact m >>= p,
            Proc.writeAll w.toList >>= fun _ => Proc.readExact n >>= q, [], []⟩
          ⟨Proc.readExact m >>= p, Proc.writeAll w.toList >>= fun _ => Proc.readExact n >>= q,
            [] ++ v.toList, []⟩ :=
        flush (by rwa [v.toList_length, List.length_nil, Nat.zero_add]) _ _
      refine hput.trans ((handover hl w _ p).swap.trans ?_)
      have hgot : Run capR capL ⟨p w, Proc.readExact n >>= q, v.toList ++ [], []⟩ ⟨p w, q v, [], []⟩ :=
        drain v _ q
      rwa [List.append_nil] at hgot
  | inr hm =>
      have hput : Run capR capL ⟨Proc.writeAll v.toList >>= fun _ => Proc.readExact m >>= p,
            Proc.writeAll w.toList >>= fun _ => Proc.readExact n >>= q, [], []⟩
          ⟨Proc.writeAll v.toList >>= fun _ => Proc.readExact m >>= p, Proc.readExact n >>= q, [],
            [] ++ w.toList⟩ :=
        (flush (by rwa [w.toList_length, List.length_nil, Nat.zero_add]) _ _).swap
      refine hput.trans ((handover hr v _ q).trans ?_)
      have hgot : Run capR capL ⟨Proc.readExact m >>= p, q v, [], w.toList ++ []⟩ ⟨p w, q v, [], []⟩ :=
        (drain w (q v) p).swap
      rwa [List.append_nil] at hgot

/-- If neither does, both wait for ever. -/
theorem cross_full {k j : ℕ} (hn : k < n) (hm : j < m) :
    ∃ b p' c q', EndsIn (Step k j) ⟨Proc.writeAll v.toList >>= fun _ => Proc.readExact m >>= p,
        Proc.writeAll w.toList >>= fun _ => Proc.readExact n >>= q, [], []⟩
      ⟨.put b p', .put c q', v.toList.take k, w.toList.take j⟩ := by
  have hv : (v.toList.take k).length = k := by
    rw [List.length_take, v.toList_length]
    omega
  have hw : (w.toList.take j).length = j := by
    rw [List.length_take, w.toList_length]
    omega
  obtain ⟨b, bs, hb⟩ : ∃ b bs, v.toList.drop k = b :: bs :=
    List.exists_cons_of_length_pos (by rw [List.length_drop, v.toList_length]; omega)
  obtain ⟨c, cs, hc⟩ : ∃ c cs, w.toList.drop j = c :: cs :=
    List.exists_cons_of_length_pos (by rw [List.length_drop, w.toList_length]; omega)
  have hleft : (Proc.writeAll v.toList >>= fun _ => Proc.readExact m >>= p)
      = Proc.writeAll (v.toList.take k) >>= fun _ =>
        Proc.put b (Proc.writeAll bs >>= fun _ => Proc.readExact m >>= p) := by
    rw [← Proc.writeAll_cons_bind, ← hb, ← Proc.writeAll_append_bind, List.take_append_drop]
  have hright : (Proc.writeAll w.toList >>= fun _ => Proc.readExact n >>= q)
      = Proc.writeAll (w.toList.take j) >>= fun _ =>
        Proc.put c (Proc.writeAll cs >>= fun _ => Proc.readExact n >>= q) := by
    rw [← Proc.writeAll_cons_bind, ← hc, ← Proc.writeAll_append_bind, List.take_append_drop]
  refine ⟨b, Proc.writeAll bs >>= fun _ => Proc.readExact m >>= p, c,
    Proc.writeAll cs >>= fun _ => Proc.readExact n >>= q,
    .of_run diamond_step ?_ (.refl (final_full (Nat.cast_le.mpr hv.ge) (Nat.cast_le.mpr hw.ge)))⟩
  rw [hleft, hright]
  exact (flush (r := []) (l := []) (by rw [List.length_nil, Nat.zero_add, hv]) _ _).trans
    (flush (r := []) (by rw [List.length_nil, Nat.zero_add, hw]) _ _).swap

end Cross

end Runs

/-- **A run of the two is a run of each** on what the other has put. -/
theorem exists_transcripts {β α γ : Type} {capR capL : ℕ∞} {p : Proc β α} {q : Proc β γ}
    {r l r' l' : List β} {a : α} {c : γ}
    (h : Run capR capL ⟨p, q, r, l⟩ ⟨.halt a, .halt c, r', l'⟩) :
    ∃ x y, p.run (l ++ y) = (x, some (a, l')) ∧ q.run (r ++ x) = (y, some (c, r')) := by
  generalize hs : (⟨p, q, r, l⟩ : Net β (Proc β α) (Proc β γ)) = s at h
  induction h using ReflTransGen.head_induction_on generalizing p q r l with
  | refl =>
      cases hs
      exact ⟨[], [], by rw [List.append_nil, Proc.run_halt], by rw [List.append_nil, Proc.run_halt]⟩
  | head hstep _ ih =>
      cases hs
      obtain ⟨x, y, hx, hy⟩ := ih rfl
      cases hstep with
      | leftPut hact _ =>
          obtain rfl := Proc.eq_put hact
          refine ⟨_ :: x, y, by rw [Proc.run, hx], ?_⟩
          rwa [List.append_assoc, List.singleton_append] at hy
      | leftGet hact =>
          obtain rfl := Proc.eq_get hact
          exact ⟨x, y, hx, hy⟩
      | rightPut hact _ =>
          obtain rfl := Proc.eq_put hact
          refine ⟨x, _ :: y, ?_, by rw [Proc.run, hy]⟩
          rwa [List.append_assoc, List.singleton_append] at hx
      | rightGet hact =>
          obtain rfl := Proc.eq_get hact
          exact ⟨x, y, hx, hy⟩

end Net

end Duplex
