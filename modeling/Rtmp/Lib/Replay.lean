import Rtmp.Lib.Duplex
import Rtmp.Lib.Eff

/-!
Parties that are known by what they put on what they get.

* `Replay`: such a party, as a machine; `Replay.flush` and `Replay.drain`: how it gets by without
  the other; `Replay.run_within`: how much room two of them need;
* `Causal`: what was put is not taken back;
* `Port`: a state with an input that may grow and a record of what was put;
* `Eff.Steady`, `Eff.Online`: computations over such a state that do not mind how their input is
  cut, and what they are made of (`Steady.bind`, `Online.bind`);
* **`Steady.causal`**: such a computation is a party, `Eff.replay`.
-/

namespace Duplex

open Relation

variable {β α : Type}

/-- A party, by what it has put and what it has ended in, if it has, once it gets some more items;
`out` of the items are on their way. -/
structure Replay (β α : Type) where
  run : List β → List β × Option α
  out : ℕ

namespace Replay

/-- What the party has ended in. -/
def result (p : Replay β α) : Option α := (p.run []).2

/-- It gets an item. -/
def after (p : Replay β α) (b : β) : Replay β α := ⟨fun bs => p.run (b :: bs), p.out⟩

/-- What is not on its way is put first; then more is got, unless the party has ended. -/
instance instMachine : Machine β (Replay β α) where
  act p := (p.run []).1[p.out]?.elim (p.result.elim (.get p.after) fun _ => .halt)
    fun b => .put b ⟨p.run, p.out + 1⟩

variable {p : Replay β α} {b : β}

lemma act_put (h : (p.run []).1[p.out]? = some b) : Machine.act p = .put b ⟨p.run, p.out + 1⟩ := by
  show Option.elim _ _ _ = _
  rw [h, Option.elim_some]

lemma act_get (hout : (p.run []).1.length ≤ p.out) (h : p.result = none) :
    Machine.act p = .get p.after := by
  show Option.elim _ _ _ = _
  rw [List.getElem?_eq_none hout, h]
  rfl

lemma act_halt {a : α} (hout : (p.run []).1.length ≤ p.out) (h : p.result = some a) :
    Machine.act p = .halt := by
  show Option.elim _ _ _ = _
  rw [List.getElem?_eq_none hout, h]
  rfl

section Runs

variable {τ : Type} [Machine β τ] {capR capL : ℕ∞} {f : List β → List β × Option α} {n : ℕ} {q : τ}
  {r l bs : List β}

/-- What is to be put is put without the other party, if there is room for it. -/
lemma flush (h : bs <+: (f []).1.drop n) (hroom : ((r.length + bs.length : ℕ) : ℕ∞) ≤ capR) :
    Net.Run capR capL ⟨(⟨f, n⟩ : Replay β α), q, r, l⟩ ⟨⟨f, n + bs.length⟩, q, r ++ bs, l⟩ := by
  induction bs generalizing n r with
  | nil => rw [List.append_nil]; exact .refl
  | cons b bs ih =>
      obtain ⟨rest, hrest⟩ := h
      have hfirst : (f []).1[n]? = some b := by
        rw [← List.head?_drop, ← hrest]
        rfl
      have hlater : bs <+: (f []).1.drop (n + 1) := by
        rw [← List.tail_drop, ← hrest]
        exact ⟨rest, rfl⟩
      have hlen : (r ++ [b]).length + bs.length = r.length + (b :: bs).length := by
        simp only [List.length_append, List.length_cons, List.length_nil]
        omega
      have hmore := ih hlater (r := r ++ [b]) (hlen ▸ hroom)
      rw [List.append_assoc, List.singleton_append, Nat.add_assoc, Nat.add_comm 1] at hmore
      have hfree : (r.length : ℕ∞) < capR :=
        lt_of_lt_of_le (Nat.cast_lt.mpr (by rw [List.length_cons]; omega)) hroom
      exact .head (.leftPut (act_put (p := ⟨f, n⟩) hfirst) hfree) hmore

/-- What has arrived is got without the other party, as long as it is waited for. -/
lemma drain (h : ∀ pre b post, bs = pre ++ b :: post → (f pre).1.length ≤ n ∧ (f pre).2 = none) :
    Net.Run capR capL ⟨(⟨f, n⟩ : Replay β α), q, r, bs ++ l⟩ ⟨⟨fun es => f (bs ++ es), n⟩, q, r,
      l⟩ := by
  induction bs generalizing f with
  | nil => exact .refl
  | cons b bs ih =>
      obtain ⟨hout, hnone⟩ := h [] b bs rfl
      have hmore := ih (f := fun es => f (b :: es)) fun pre c post hbs =>
        h (b :: pre) c post (by rw [hbs, List.cons_append])
      exact .head (.leftGet (act_get (p := ⟨f, n⟩) hout hnone)) hmore

end Runs

/-! ### Room -/

section Room

variable {γ : Type} {n n' : Net β (Replay β α) (Replay β γ)} {capR capL : ℕ∞}

lemma out_of_put {p' : Replay β α} (h : Machine.act p = .put b p') : p'.out = p.out + 1 := by
  rcases hnext : (p.run []).1[p.out]? with _ | c
  · have hout := List.getElem?_eq_none_iff.mp hnext
    rcases hresult : p.result with _ | a
    · rw [act_get hout hresult] at h
      cases h
    · rw [act_halt hout hresult] at h
      cases h
  · rw [act_put hnext] at h
    cases h
    rfl

lemma out_of_get {f : β → Replay β α} (h : Machine.act p = .get f) : (f b).out = p.out := by
  rcases hnext : (p.run []).1[p.out]? with _ | c
  · have hout := List.getElem?_eq_none_iff.mp hnext
    rcases hresult : p.result with _ | a
    · rw [act_get hout hresult] at h
      cases h
      rfl
    · rw [act_halt hout hresult] at h
      cases h
  · rw [act_put hnext] at h
    cases h

/-- What was put on its way stays put. -/
lemma out_le_of_run (h : Net.Run capR capL n n') :
    n.left.out ≤ n'.left.out ∧ n.right.out ≤ n'.right.out := by
  induction h with
  | refl => exact ⟨le_refl _, le_refl _⟩
  | tail _ hstep ih =>
      cases hstep with
      | leftPut h => exact ⟨ih.1.trans (Nat.le_of_succ_le (out_of_put h).ge), ih.2⟩
      | leftGet h => exact ⟨ih.1.trans (out_of_get h).ge, ih.2⟩
      | rightPut h => exact ⟨ih.1, ih.2.trans (Nat.le_of_succ_le (out_of_put h).ge)⟩
      | rightGet h => exact ⟨ih.1, ih.2.trans (out_of_get h).ge⟩

/-- A run with all the room it wants gets by with room for what is put. -/
lemma run_within (h : Net.Run ⊤ ⊤ n n') (hright : n.toRight.length ≤ n.left.out)
    (hleft : n.toLeft.length ≤ n.right.out) (hcapR : (n'.left.out : ℕ∞) ≤ capR)
    (hcapL : (n'.right.out : ℕ∞) ≤ capL) : Net.Run capR capL n n' := by
  induction h using ReflTransGen.head_induction_on with
  | refl => exact .refl
  | head hstep hrun ih =>
      obtain ⟨hmoreR, hmoreL⟩ := out_le_of_run hrun
      cases hstep with
      | @leftPut p q r l b p' h =>
          change r.length ≤ p.out at hright
          have hput : r.length + 1 ≤ p'.out := by rw [out_of_put h]; omega
          have hroom : (r.length : ℕ∞) < capR :=
            lt_of_lt_of_le (Nat.cast_lt.mpr (lt_of_lt_of_le hput hmoreR)) hcapR
          exact .head (.leftPut h hroom) (ih (List.length_append.trans_le hput) hleft)
      | leftGet h =>
          exact .head (.leftGet h) (ih (hright.trans (out_of_get h).ge) (Nat.le_of_succ_le hleft))
      | @rightPut p q r l b q' h =>
          change l.length ≤ q.out at hleft
          have hput : l.length + 1 ≤ q'.out := by rw [out_of_put h]; omega
          have hroom : (l.length : ℕ∞) < capL :=
            lt_of_lt_of_le (Nat.cast_lt.mpr (lt_of_lt_of_le hput hmoreL)) hcapL
          exact .head (.rightPut h hroom) (ih hright (List.length_append.trans_le hput))
      | rightGet h =>
          exact .head (.rightGet h) (ih (Nat.le_of_succ_le hright) (hleft.trans (out_of_get h).ge))

end Room

end Replay

/-- More items do not change what was put before them, nor that the party has ended. -/
structure Causal (f : List β → List β × Option α) : Prop where
  grows : ∀ xs ys, (f xs).1 <+: (f (xs ++ ys)).1
  settled : ∀ xs ys, (f xs).2.isSome → (f (xs ++ ys)).1 = (f xs).1 ∧ (f (xs ++ ys)).2.isSome

end Duplex

/-- A state with an input that may grow, a record of what was put, and the error of a computation
that has used up the input. -/
class Port (ε : outParam Type) (σ : Type) (β : outParam Type) where
  feed : List β → σ → σ
  sent : σ → List β
  starved : ε
  feed_nil : ∀ s, feed [] s = s
  feed_append : ∀ xs ys s, feed (xs ++ ys) s = feed ys (feed xs s)
  sent_feed : ∀ xs s, sent (feed xs s) = sent s

namespace Eff

variable {ε σ α γ β : Type} [Port ε σ β]

open Port

/-- A computation that ends does not use the input it leaves, though its value may hold it, and one
that has used up the input has put what it puts on more of it first. -/
class Steady (x : Eff ε σ α) : Prop where
  settles : ∀ {s s' : σ} {out : Except ε α}, x.run s = (out, s') → out ≠ .error (starved σ) →
    ∀ bs, ∃ out', out' ≠ .error (starved σ) ∧ x.run (feed bs s) = (out', feed bs s')
  grows : ∀ s, sent s <+: sent (x.run s).2
  resumes : ∀ {s s' : σ}, x.run s = (.error (starved σ), s') →
    ∀ bs, sent s' <+: sent (x.run (feed bs s)).2

/-- A computation that does not look at the input it leaves. -/
class Online (x : Eff ε σ α) : Prop extends Steady x where
  settled : ∀ {s s' : σ} {out : Except ε α}, x.run s = (out, s') → out ≠ .error (starved σ) →
    ∀ bs, x.run (feed bs s) = (out, feed bs s')
  settles := fun hrun hout bs => ⟨_, hout, settled hrun hout bs⟩

namespace Steady

variable {x : Eff ε σ α}

omit [Port ε σ β] in
/-- What is made of the value leaves the state alone. -/
lemma snd_run_bind_pure (x : Eff ε σ α) (g : α → γ) (s : σ) :
    ((x >>= fun a => Pure.pure (g a)).run s).2 = (x.run s).2 := by
  rw [run_bind]
  rcases x.run s with ⟨e | a, t⟩ <;> rfl

/-- What was put is put. -/
lemma prefix_feed (hx : Steady x) (s : σ) (bs : List β) :
    sent (x.run s).2 <+: sent (x.run (feed bs s)).2 := by
  rcases hrun : x.run s with ⟨out, s'⟩
  by_cases hout : out = .error (starved σ)
  · subst hout
    exact hx.resumes hrun bs
  · obtain ⟨out', -, hfed⟩ := hx.settles hrun hout bs
    rw [hfed, sent_feed]

instance gets (f : σ → α) : Steady (Eff.gets f : Eff ε σ α) where
  settles {s s' out} hrun _ bs := by
    obtain ⟨-, rfl⟩ := Prod.mk.inj hrun
    exact ⟨.ok (f (feed bs s)), nofun, rfl⟩
  grows _ := List.prefix_refl _
  resumes {s s'} hrun := by cases hrun

/-- The value of the first half is used. -/
instance bind {f : α → Eff ε σ γ} [hx : Online x] [hf : ∀ a, Steady (f a)] : Steady (x >>= f) where
  settles {s s' out} hrun hout bs := by
    rw [run_bind] at hrun ⊢
    rcases hfirst : x.run s with ⟨e | a, t⟩ <;> rw [hfirst] at hrun
    · cases hrun
      have he : Except.error e ≠ (.error (starved σ) : Except ε α) := fun h =>
        hout (by rw [Except.error.inj h])
      rw [hx.settled hfirst he bs]
      exact ⟨_, hout, rfl⟩
    · rw [hx.settled hfirst nofun bs]
      exact (hf a).settles hrun hout bs
  grows s := by
    have hfirst := hx.grows s
    rw [run_bind]
    rcases hrun : x.run s with ⟨e | a, t⟩ <;> rw [hrun] at hfirst
    · exact hfirst
    · exact hfirst.trans ((hf a).grows t)
  resumes {s s'} hrun bs := by
    rw [run_bind] at hrun
    rcases hfirst : x.run s with ⟨e | a, t⟩ <;> rw [hfirst] at hrun
    · cases hrun
      refine (hx.resumes hfirst bs).trans ?_
      rw [run_bind]
      rcases x.run (feed bs s) with ⟨e | a, u⟩
      · exact List.prefix_refl _
      · exact (hf a).grows u
    · rw [run_bind, hx.settled hfirst nofun bs]
      exact (hf a).resumes hrun bs

/-- The value is not used before the end. -/
instance map [hx : Steady x] (g : α → γ) : Steady (x >>= fun a => Pure.pure (g a)) where
  settles {s s' out} hrun hout bs := by
    rw [run_bind] at hrun ⊢
    rcases hfirst : x.run s with ⟨e | a, t⟩ <;> rw [hfirst] at hrun <;> cases hrun
    · obtain ⟨e' | b, hout', hfed⟩ := hx.settles hfirst
        (fun h => hout (by rw [Except.error.inj h])) bs <;> rw [hfed]
      · exact ⟨.error e', fun h => hout' (by rw [Except.error.inj h]), rfl⟩
      · exact ⟨.ok (g b), nofun, rfl⟩
    · obtain ⟨e' | b, hout', hfed⟩ := hx.settles hfirst nofun bs <;> rw [hfed]
      · exact ⟨.error e', fun h => hout' (by rw [Except.error.inj h]), rfl⟩
      · exact ⟨.ok (g b), nofun, rfl⟩
  grows s := by
    rw [snd_run_bind_pure]
    exact hx.grows s
  resumes {s s'} hrun bs := by
    rw [run_bind] at hrun
    rw [snd_run_bind_pure]
    rcases hfirst : x.run s with ⟨e | a, t⟩ <;> rw [hfirst] at hrun <;> cases hrun
    exact hx.resumes hfirst bs

instance ite {p : Prop} [Decidable p] {y : Eff ε σ α} [hx : Steady x] [hy : Steady y] :
    Steady (if p then x else y) := by
  split_ifs
  · exact hx
  · exact hy

end Steady

namespace Online

variable {x : Eff ε σ α}

/-- A computation that always ends well. -/
lemma of_ok (h : ∀ s, ∃ a s', x.run s = (.ok a, s') ∧ sent s <+: sent s' ∧
    ∀ bs, x.run (feed bs s) = (.ok a, feed bs s')) : Online x where
  settled {s s' out} hrun _ bs := by
    obtain ⟨a, t, hok, -, hfed⟩ := h s
    rw [hok] at hrun
    cases hrun
    exact hfed bs
  grows s := by
    obtain ⟨a, t, hok, hsent, -⟩ := h s
    rw [hok]
    exact hsent
  resumes {s s'} hrun bs := by
    obtain ⟨a, t, hok, -, -⟩ := h s
    rw [hok] at hrun
    cases hrun

instance pure (a : α) : Online (pure a : Eff ε σ α) :=
  of_ok fun s => ⟨a, s, rfl, List.prefix_refl _, fun _ => rfl⟩

instance ofExcept (out : Except ε α) : Online (Eff.ofExcept out : Eff ε σ α) where
  settled hrun _ bs := by
    cases hrun
    rfl
  grows s := List.prefix_refl _
  resumes {s s'} hrun bs := by
    cases hrun
    rw [run_ofExcept, sent_feed]

instance fail (e : ε) : Online (Eff.fail e : Eff ε σ α) := ofExcept (.error e)

lemma gets {f : σ → α} (hf : ∀ bs s, f (feed bs s) = f s) : Online (Eff.gets f : Eff ε σ α) :=
  of_ok fun s => ⟨f s, s, rfl, List.prefix_refl _, fun bs => by rw [run_gets, hf]⟩

lemma modify {f : σ → σ} (hf : ∀ bs s, f (feed bs s) = feed bs (f s))
    (hs : ∀ s, sent s <+: sent (f s)) :
    Online (Eff.modify f : Eff ε σ Unit) :=
  of_ok fun s => ⟨(), f s, rfl, hs s, fun bs => by rw [run_modify, hf]⟩

instance bind {f : α → Eff ε σ γ} [hx : Online x] [hf : ∀ a, Online (f a)] : Online (x >>= f) where
  toSteady := inferInstance
  settled {s s' out} hrun hout bs := by
    rw [run_bind] at hrun ⊢
    rcases hfirst : x.run s with ⟨e | a, t⟩ <;> rw [hfirst] at hrun
    · cases hrun
      rw [hx.settled hfirst (fun h => hout (by rw [Except.error.inj h])) bs]
    · rw [hx.settled hfirst nofun bs]
      exact (hf a).settled hrun hout bs

/-- The second half may be looked at more closely. -/
lemma seq {f : α → Eff ε σ γ} (hx : Online x) (hf : ∀ a, Online (f a)) : Online (x >>= f) := bind

lemma steady {f : α → Eff ε σ γ} (hx : Online x) (hf : ∀ a, Steady (f a)) : Steady (x >>= f) := .bind

instance ite {p : Prop} [Decidable p] {y : Eff ε σ α} [hx : Online x] [hy : Online y] :
    Online (if p then x else y) := by
  split_ifs
  · exact hx
  · exact hy

/-- So may the branches. -/
lemma branch {p : Prop} [Decidable p] {y : Eff ε σ α} (hx : Online x) (hy : Online y) :
    Online (if p then x else y) := ite

/-- A failure that was turned into a value; that of an input that was used up is passed on. -/
lemma attempt_bind {f : Except ε α → Eff ε σ γ} (hx : Online x) (hok : ∀ a, Online (f (.ok a)))
    (herror : ∀ e, e ≠ starved σ → Online (f (.error e)))
    (hstarved : f (.error (starved σ)) = Eff.fail (starved σ)) : Online (attempt x >>= f) where
  settled {s s' out} hrun hout bs := by
    rw [run_attempt_bind] at hrun ⊢
    rcases hfirst : x.run s with ⟨e | a, t⟩ <;> rw [hfirst] at hrun
    · by_cases he : e = starved σ
      · subst he
        rw [hstarved] at hrun
        cases hrun
        exact absurd rfl hout
      · rw [hx.settled hfirst (fun h => he (Except.error.inj h)) bs]
        exact (herror e he).settled hrun hout bs
    · rw [hx.settled hfirst nofun bs]
      exact (hok a).settled hrun hout bs
  grows s := by
    have hfirst := hx.grows s
    rw [run_attempt_bind]
    rcases hrun : x.run s with ⟨e | a, t⟩ <;> rw [hrun] at hfirst
    · by_cases he : e = starved σ
      · subst he
        rw [hstarved]
        exact hfirst
      · exact hfirst.trans ((herror e he).grows t)
    · exact hfirst.trans ((hok a).grows t)
  resumes {s s'} hrun bs := by
    have hfirst := hx.prefix_feed s bs
    rw [run_attempt_bind] at hrun ⊢
    rcases hs : x.run s with ⟨e | a, t⟩ <;> rw [hs] at hrun hfirst
    · by_cases he : e = starved σ
      · subst he
        rw [hstarved] at hrun
        cases hrun
        refine hfirst.trans ?_
        rcases x.run (feed bs s) with ⟨e' | a, u⟩
        · -- with more bytes the first part may starve again, fail or end
          by_cases he' : e' = starved σ
          · subst he'
            rw [hstarved]
            exact List.prefix_refl _
          · exact (herror e' he').grows u
        · exact (hok a).grows u
      · rw [hx.settled hs (fun h => he (Except.error.inj h)) bs]
        exact (herror e he).resumes hrun bs
    · rw [hx.settled hs nofun bs]
      exact (hok a).resumes hrun bs

/-- A failure that is always there is a value. -/
lemma attempt (hx : Online x) (h : ∀ s, (x.run s).1 ≠ .error (starved σ)) : Online (Eff.attempt x) :=
  of_ok fun s => ⟨_, _, rfl, hx.grows s, fun bs => by
    rw [run_attempt, hx.settled (Prod.ext rfl rfl) (h s) bs]⟩

end Online

/-! ### Computations as parties -/

variable [DecidableEq ε]

/-- What a computation has ended in, unless it has used up the input. -/
def ended : Except ε α × σ → Option (Except ε α × σ)
  | (.ok a, s) => some (.ok a, s)
  | (.error e, s) => if e = starved σ then none else some (.error e, s)

lemma ended_starved (s : σ) : ended ((.error (starved σ), s) : Except ε α × σ) = none := if_pos rfl

lemma ended_of_ne {out : Except ε α} (h : out ≠ .error (starved σ)) (s : σ) :
    ended (out, s) = some (out, s) := by
  cases out with
  | ok a => rfl
  | error e => exact if_neg fun he => h (congrArg _ he)

/-- The computation from a state on, as it goes on with more input. -/
def replay (x : Eff ε σ α) (s : σ) : Duplex.Replay β (Except ε α × σ) where
  run bs := (sent (x.run (feed bs s)).2, ended (x.run (feed bs s)))
  out := (sent s).length

/-- **A computation that does not mind how its input is cut is a party.** -/
theorem Steady.causal {x : Eff ε σ α} (hx : Steady x) (s : σ) : Duplex.Causal (replay x s).run where
  grows xs ys := by
    show sent (x.run (feed xs s)).2 <+: sent (x.run (feed (xs ++ ys) s)).2
    rw [feed_append]
    exact hx.prefix_feed _ _
  settled xs ys h := by
    change (ended (x.run (feed xs s))).isSome at h
    show sent (x.run (feed (xs ++ ys) s)).2 = sent (x.run (feed xs s)).2 ∧
      (ended (x.run (feed (xs ++ ys) s))).isSome
    rw [feed_append]
    rcases hrun : x.run (feed xs s) with ⟨out, s'⟩
    rw [hrun] at h
    have hout : out ≠ .error (starved σ) := by
      rintro rfl
      rw [ended_starved] at h
      cases h
    obtain ⟨out', hout', hfed⟩ := hx.settles hrun hout ys
    rw [hfed, sent_feed, ended_of_ne hout']
    exact ⟨rfl, rfl⟩

end Eff
