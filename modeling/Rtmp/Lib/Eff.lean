import Mathlib.Tactic

/-!
Fallible stateful computations whose state survives a failure.

A method that takes its receiver by mutable reference and returns a result keeps every update it
made before it failed.  `Eff ε σ α` is that shape: a function from a state to an outcome *and* a
state, in both cases.

* `Eff.run_bind_ok` and `Eff.run_bind_error` run a sequence once its first half is known;
  `Eff.run_bind_eq_ok` inverts a sequence that succeeded.
* `Eff.Triple` is a Hoare triple with a postcondition for each way to end, and `Triple.bind` the
  rule for sequences.
* `Eff.zoom` runs a computation on one component of a larger state and leaves the rest alone.
* `Eff.times` and `Eff.collect` are the counted loop and the loop that ends by itself;
  `Eff.Collects` is the run of the second without its fuel.
* `Eff.Along` says that every run of a computation, successful or not, goes along a relation on
  states; for a preorder it is preserved by every construct.
* `Eff.Respects` says that a computation cannot tell related states apart.
* `Eff.Guarded` says that a computation fails, if at all, before it has looked at the state or
  changed it; `Eff.Total` that it never fails.
* `Eff.Raises` bounds the errors of a computation, from the states of an invariant.
* `Eff.attempt` turns a failure into a value, for the callers that match on it.
-/

universe u v w

/-- A computation over a state `σ` that ends in a value or in an error `ε`, and in a state. -/
structure Eff (ε : Type u) (σ : Type v) (α : Type w) where
  run : σ → Except ε α × σ

namespace Eff

variable {ε σ τ α β γ : Type}

/-- Run `x`, and `f` on its value; a failure of `x` ends the run in the state `x` left. -/
protected def bind (x : Eff ε σ α) (f : α → Eff ε σ β) : Eff ε σ β where
  run s :=
    match x.run s with
    | (.ok a, s') => (f a).run s'
    | (.error e, s') => (.error e, s')

instance : Monad (Eff ε σ) where
  pure a := ⟨fun s => (.ok a, s)⟩
  bind := Eff.bind

/-- Fail with `e` and leave the state as it is. -/
def fail (e : ε) : Eff ε σ α := ⟨fun s => (.error e, s)⟩

/-- Read a component of the state. -/
def gets (f : σ → α) : Eff ε σ α := ⟨fun s => (.ok (f s), s)⟩

/-- Update the state. -/
def modify (f : σ → σ) : Eff ε σ Unit := ⟨fun s => (.ok (), f s)⟩

/-- Update the state and return a value computed with the update. -/
def modifyGet (f : σ → α × σ) : Eff ε σ α := ⟨fun s => (.ok (f s).1, (f s).2)⟩

/-- Lift an outcome that does not touch the state. -/
def ofExcept (x : Except ε α) : Eff ε σ α := ⟨fun s => (x, s)⟩

/-- Turn a failure into a value: the state is the one the failed run left. -/
def attempt (x : Eff ε σ α) : Eff ε σ (Except ε α) := ⟨fun s => (.ok (x.run s).1, (x.run s).2)⟩

/-- Run `x` on the component `get s` of the state and put the result back. -/
def zoom (get : σ → τ) (put : τ → σ → σ) (x : Eff ε τ α) : Eff ε σ α where
  run s := ((x.run (get s)).1, put (x.run (get s)).2 s)

/-- Run `x` on the first half of the state. -/
def onFst (x : Eff ε σ α) : Eff ε (σ × τ) α := zoom Prod.fst (fun a s => (a, s.2)) x

/-- Run `x` on the second half of the state. -/
def onSnd (x : Eff ε τ α) : Eff ε (σ × τ) α := zoom Prod.snd (fun b s => (s.1, b)) x

/-- Run `x` a fixed number of times. -/
def times (x : Eff ε σ α) : ℕ → Eff ε σ (List α)
  | 0 => pure []
  | n + 1 => do
      let a ← x
      let as ← times x n
      pure (a :: as)

/-- Run `next` until it has nothing more to give, for at most `fuel` rounds. -/
def collect (next : Eff ε σ (Option α)) : (fuel : ℕ) → Eff ε σ (List α)
  | 0 => pure []
  | fuel + 1 => do
      match ← next with
      | none => pure []
      | some a =>
          let as ← collect next fuel
          pure (a :: as)

/-! ### Running the primitives -/

@[simp] lemma run_pure (a : α) (s : σ) : (pure a : Eff ε σ α).run s = (.ok a, s) := rfl

@[simp] lemma run_fail (e : ε) (s : σ) : (fail e : Eff ε σ α).run s = (.error e, s) := rfl

@[simp] lemma run_gets (f : σ → α) (s : σ) : (gets f : Eff ε σ α).run s = (.ok (f s), s) := rfl

@[simp] lemma run_modify (f : σ → σ) (s : σ) :
    (modify f : Eff ε σ Unit).run s = (.ok (), f s) := rfl

@[simp] lemma run_modifyGet (f : σ → α × σ) (s : σ) :
    (modifyGet f : Eff ε σ α).run s = (.ok (f s).1, (f s).2) := rfl

@[simp] lemma run_ofExcept (x : Except ε α) (s : σ) :
    (ofExcept x : Eff ε σ α).run s = (x, s) := rfl

@[simp] lemma run_attempt (x : Eff ε σ α) (s : σ) :
    (attempt x).run s = (.ok (x.run s).1, (x.run s).2) := rfl

/-- Zooming in on a component whose run is known. -/
lemma run_zoom {get : σ → τ} {put : τ → σ → σ} {x : Eff ε τ α} {s : σ} {t : τ}
    {a : Except ε α} (h : x.run (get s) = (a, t)) : (zoom get put x).run s = (a, put t s) := by
  simp only [zoom, h]

lemma run_onFst {x : Eff ε σ α} {s s' : σ} {t : τ} {a : Except ε α} (h : x.run s = (a, s')) :
    (onFst x).run (s, t) = (a, (s', t)) :=
  run_zoom h

/-- A run on the first half that succeeded left the second half as it was. -/
lemma run_onFst_eq_ok {x : Eff ε σ α} {a : α} {s t : σ × τ} :
    (onFst x).run s = (.ok a, t) ↔ x.run s.1 = (.ok a, t.1) ∧ s.2 = t.2 := by
  obtain ⟨u, r⟩ := s
  obtain ⟨u', r'⟩ := t
  rw [onFst, zoom]
  simp only [Prod.mk.injEq]
  constructor
  · rintro ⟨ha, hu, rfl⟩
    exact ⟨Prod.ext ha hu, rfl⟩
  · rintro ⟨hx, rfl⟩
    rw [hx]
    exact ⟨rfl, rfl, rfl⟩

/-! ### Running sequences -/

lemma run_bind (x : Eff ε σ α) (f : α → Eff ε σ β) (s : σ) :
    (x >>= f).run s = match x.run s with
      | (.ok a, s') => (f a).run s'
      | (.error e, s') => (.error e, s') := rfl

/-- A sequence whose first half succeeds continues with its second half. -/
lemma run_bind_ok {x : Eff ε σ α} {f : α → Eff ε σ β} {s s' : σ} {a : α}
    (h : x.run s = (.ok a, s')) : (x >>= f).run s = (f a).run s' := by
  rw [run_bind, h]

/-- A sequence whose first half fails ends there. -/
lemma run_bind_error {x : Eff ε σ α} {f : α → Eff ε σ β} {s s' : σ} {e : ε}
    (h : x.run s = (.error e, s')) : (x >>= f).run s = (.error e, s') := by
  rw [run_bind, h]

lemma bind_assoc (x : Eff ε σ α) (f : α → Eff ε σ β) (g : β → Eff ε σ γ) :
    (x >>= f >>= g) = (x >>= fun a => f a >>= g) := by
  have hrun : (x >>= f >>= g).run = (x >>= fun a => f a >>= g).run := by
    funext s
    rw [run_bind, run_bind, run_bind]
    rcases x.run s with ⟨_ | a, s'⟩ <;> rfl
  exact congrArg Eff.mk hrun

@[simp] lemma pure_bind (a : α) (f : α → Eff ε σ β) : ((pure a : Eff ε σ α) >>= f) = f a := rfl

@[simp] lemma ofExcept_ok_bind (a : α) (f : α → Eff ε σ β) :
    ((ofExcept (.ok a) : Eff ε σ α) >>= f) = f a := rfl

/-- A sequence that succeeded ran through both halves. -/
lemma run_bind_eq_ok {x : Eff ε σ α} {f : α → Eff ε σ β} {s t : σ} {b : β} :
    (x >>= f).run s = (.ok b, t) ↔ ∃ a s', x.run s = (.ok a, s') ∧ (f a).run s' = (.ok b, t) := by
  rw [run_bind]
  rcases hx : x.run s with ⟨_ | a, s'⟩ <;> simp

/-- The same for computations without a state. -/
lemma except_bind_eq_ok {x : Except ε α} {f : α → Except ε β} {b : β} :
    x >>= f = .ok b ↔ ∃ a, x = .ok a ∧ f a = .ok b := by
  cases x with
  | error e => exact iff_of_false nofun nofun
  | ok a => exact ⟨fun h => ⟨a, rfl, h⟩, fun ⟨_, ha, hb⟩ => by cases ha; exact hb⟩

@[simp] lemma run_pure_bind (a : α) (f : α → Eff ε σ β) (s : σ) :
    ((pure a : Eff ε σ α) >>= f).run s = (f a).run s := rfl

@[simp] lemma run_gets_bind (g : σ → α) (f : α → Eff ε σ β) (s : σ) :
    (gets g >>= f).run s = (f (g s)).run s := rfl

@[simp] lemma run_modify_bind (g : σ → σ) (f : Unit → Eff ε σ β) (s : σ) :
    (modify g >>= f).run s = (f ()).run (g s) := rfl

@[simp] lemma run_modifyGet_bind (g : σ → α × σ) (f : α → Eff ε σ β) (s : σ) :
    (modifyGet g >>= f).run s = (f (g s).1).run (g s).2 := rfl

@[simp] lemma run_fail_bind (e : ε) (f : α → Eff ε σ β) (s : σ) :
    ((fail e : Eff ε σ α) >>= f).run s = (.error e, s) := rfl

@[simp] lemma run_ofExcept_ok_bind (a : α) (f : α → Eff ε σ β) (s : σ) :
    ((ofExcept (.ok a) : Eff ε σ α) >>= f).run s = (f a).run s := rfl

@[simp] lemma run_ofExcept_error_bind (e : ε) (f : α → Eff ε σ β) (s : σ) :
    ((ofExcept (.error e) : Eff ε σ α) >>= f).run s = (.error e, s) := rfl

@[simp] lemma run_attempt_bind (x : Eff ε σ α) (f : Except ε α → Eff ε σ β) (s : σ) :
    (attempt x >>= f).run s = (f (x.run s).1).run (x.run s).2 := rfl

/-! ### Running loops -/

/-- One more round of a counted loop. -/
lemma run_times_succ {x : Eff ε σ α} {n : ℕ} {s s' s'' : σ} {a : α} {as : List α}
    (hx : x.run s = (.ok a, s')) (h : (times x n).run s' = (.ok as, s'')) :
    (times x (n + 1)).run s = (.ok (a :: as), s'') := by
  rw [times, run_bind_ok hx, run_bind_ok h, run_pure]

/-- A counted loop that succeeded ran its body in every round. -/
lemma run_times_succ_eq_ok {x : Eff ε σ α} {n : ℕ} {s t : σ} {l : List α} :
    (times x (n + 1)).run s = (.ok l, t) ↔ ∃ a as s', l = a :: as ∧ x.run s = (.ok a, s') ∧
      (times x n).run s' = (.ok as, t) := by
  rw [times, run_bind_eq_ok]
  constructor
  · rintro ⟨a, s', hx, hrest⟩
    obtain ⟨as, s'', hloop, hpure⟩ := run_bind_eq_ok.mp hrest
    cases hpure
    exact ⟨a, as, s', rfl, hx, hloop⟩
  · rintro ⟨a, as, s', rfl, hx, hloop⟩
    exact ⟨a, s', hx, run_bind_eq_ok.mpr ⟨as, t, hloop, rfl⟩⟩

/-- A collecting loop ends when there is nothing more. -/
lemma run_collect_none {next : Eff ε σ (Option α)} {fuel : ℕ} {s s' : σ}
    (h : next.run s = (.ok none, s')) : (collect next (fuel + 1)).run s = (.ok [], s') := by
  rw [collect, run_bind_ok h]
  rfl

/-- A collecting loop keeps what it is given. -/
lemma run_collect_some {next : Eff ε σ (Option α)} {fuel : ℕ} {s s' s'' : σ} {a : α} {as : List α}
    (h : next.run s = (.ok (some a), s')) (hloop : (collect next fuel).run s' = (.ok as, s'')) :
    (collect next (fuel + 1)).run s = (.ok (a :: as), s'') := by
  rw [collect, run_bind_ok h]
  exact run_bind_eq_ok.mpr ⟨as, s'', hloop, rfl⟩

/-- `Collects next s l t`: asked again and again from `s`, `next` gives `l` and then nothing more, in
`t`. -/
inductive Collects (next : Eff ε σ (Option α)) : σ → List α → σ → Prop
  | done {s t : σ} (h : next.run s = (.ok none, t)) : Collects next s [] t
  | more {s s' t : σ} {a : α} {as : List α} (h : next.run s = (.ok (some a), s'))
      (hrest : Collects next s' as t) : Collects next s (a :: as) t

/-- A collecting loop with a round more than it gives runs to its end. -/
lemma Collects.run {next : Eff ε σ (Option α)} {s t : σ} {l : List α} (h : Collects next s l t)
    {fuel : ℕ} (hfuel : l.length < fuel) : (collect next fuel).run s = (.ok l, t) := by
  induction h generalizing fuel with
  | done h =>
      obtain ⟨n, rfl⟩ := Nat.exists_eq_add_of_lt hfuel
      exact run_collect_none h
  | more h _ ih =>
      obtain ⟨n, rfl⟩ := Nat.exists_eq_succ_of_ne_zero (Nat.ne_zero_of_lt hfuel)
      exact run_collect_some h (ih (Nat.lt_of_succ_lt_succ hfuel))

/-- A collecting loop that succeeded, with more fuel than a measure that every round decreases, ran
to its end. -/
lemma collects_of_run {next : Eff ε σ (Option α)} (μ : σ → ℕ)
    (hμ : ∀ s s' a, next.run s = (.ok (some a), s') → μ s' < μ s) {fuel : ℕ} {s t : σ} {l : List α}
    (hfuel : μ s < fuel) (h : (collect next fuel).run s = (.ok l, t)) : Collects next s l t := by
  induction fuel generalizing s l with
  | zero => exact absurd hfuel (Nat.not_lt_zero _)
  | succ fuel ih =>
      obtain ⟨a, s', hnext, hrest⟩ := run_bind_eq_ok.mp h
      cases a with
      | none =>
          cases hrest
          exact .done hnext
      | some a =>
          obtain ⟨as, s'', hloop, hpure⟩ := run_bind_eq_ok.mp hrest
          cases hpure
          have hless := hμ s s' a hnext
          exact .more hnext (ih (by omega) hloop)

/-- The rounds of a collecting loop decrease the measure by at least one each. -/
lemma Collects.length_le {next : Eff ε σ (Option α)} (μ : σ → ℕ)
    (hμ : ∀ s s' a, next.run s = (.ok (some a), s') → μ s' < μ s) {s t : σ} {l : List α}
    (h : Collects next s l t) : l.length ≤ μ s := by
  induction h with
  | done => exact Nat.zero_le _
  | more h _ ih => exact Nat.succ_le_of_lt (Nat.lt_of_le_of_lt ih (hμ _ _ _ h))

/-! ### Pre- and postconditions -/

/-- From a state in `P`, `x` ends with a value and a state in `Q`, or fails in a state in `E`. -/
def Triple (P : σ → Prop) (x : Eff ε σ α) (Q : α → σ → Prop) (E : σ → Prop) : Prop :=
  ∀ s, P s → match x.run s with
    | (.ok a, s') => Q a s'
    | (.error _, s') => E s'

namespace Triple

variable {P P' : σ → Prop} {x y : Eff ε σ α} {Q Q' : α → σ → Prop} {E : σ → Prop}

lemma ok (h : Triple P x Q E) {s s' : σ} {a : α} (hs : P s) (hx : x.run s = (.ok a, s')) :
    Q a s' := by
  have hpost := h s hs
  rw [hx] at hpost
  exact hpost

lemma error (h : Triple P x Q E) {s s' : σ} {e : ε} (hs : P s) (hx : x.run s = (.error e, s')) :
    E s' := by
  have hpost := h s hs
  rw [hx] at hpost
  exact hpost

/-- The rule of consequence. -/
lemma weaken (h : Triple P x Q E) (hP : ∀ s, P' s → P s) (hQ : ∀ a s, Q a s → Q' a s) :
    Triple P' x Q' E := by
  intro s hs
  have hpost := h s (hP s hs)
  rcases hx : x.run s with ⟨_ | a, s'⟩ <;> rw [hx] at hpost
  · exact hpost
  · exact hQ _ _ hpost

lemma pure {a : α} (h : ∀ s, P s → Q a s) : Triple P (pure a : Eff ε σ α) Q E := h

lemma fail {e : ε} (h : ∀ s, P s → E s) : Triple P (Eff.fail e : Eff ε σ α) Q E := h

lemma gets {f : σ → α} (h : ∀ s, P s → Q (f s) s) : Triple P (Eff.gets f : Eff ε σ α) Q E := h

lemma modify {f : σ → σ} {Q : Unit → σ → Prop} (h : ∀ s, P s → Q () (f s)) :
    Triple P (Eff.modify f : Eff ε σ Unit) Q E := h

/-- The rule for sequences: the middle condition may mention the value passed on. -/
lemma bind {R : α → σ → Prop} {f : α → Eff ε σ β} {Q : β → σ → Prop}
    (hx : Triple P x R E) (hf : ∀ a, Triple (R a) (f a) Q E) : Triple P (x >>= f) Q E := by
  intro s hs
  have hmid := hx s hs
  rw [run_bind]
  rcases hr : x.run s with ⟨_ | a, s'⟩ <;> rw [hr] at hmid
  · exact hmid
  · exact hf a s' hmid

lemma ite {p : Prop} [Decidable p] (hx : p → Triple P x Q E) (hy : ¬ p → Triple P y Q E) :
    Triple P (if p then x else y) Q E := by
  split_ifs with hp
  · exact hx hp
  · exact hy hp

end Triple

/-! ### Runs along a relation -/

/-- Every run of `x`, successful or not, leads to a state related to the one it started in. -/
def Along (R : σ → σ → Prop) (x : Eff ε σ α) : Prop := ∀ s, R s (x.run s).2

namespace Along

variable {R : σ → σ → Prop} {x : Eff ε σ α}

lemma of_run (h : Along R x) {s s' : σ} {a : Except ε α} (hx : x.run s = (a, s')) : R s s' := by
  have hs := h s
  rw [hx] at hs
  exact hs

lemma modify {f : σ → σ} (h : ∀ s, R s (f s)) : Along R (Eff.modify f : Eff ε σ Unit) := h

lemma modifyGet {f : σ → α × σ} (h : ∀ s, R s (f s).2) : Along R (Eff.modifyGet f : Eff ε σ α) := h

lemma attempt (h : Along R x) : Along R (Eff.attempt x) := h

lemma ite {p : Prop} [Decidable p] {y : Eff ε σ α} (hx : Along R x) (hy : Along R y) :
    Along R (if p then x else y) := by
  split_ifs
  · exact hx
  · exact hy

/-- A run on one half of the state goes along a relation on that half alone. -/
lemma onFst {R' : τ → τ → Prop} {y : Eff ε τ α} (h : Along R' y) :
    Along (fun s t : τ × σ => R' s.1 t.1) (Eff.onFst y) :=
  fun s => h s.1

section Sequence

variable [IsTrans σ R]

lemma bind {f : α → Eff ε σ β} (hx : Along R x) (hf : ∀ a, Along R (f a)) : Along R (x >>= f) := by
  intro s
  rw [run_bind]
  rcases hr : x.run s with ⟨_ | a, s'⟩
  · exact hx.of_run hr
  · exact trans_of R (hx.of_run hr) (hf a s')

end Sequence

variable [Std.Refl R]

lemma pure (a : α) : Along R (pure a : Eff ε σ α) := fun s => refl_of R s

lemma fail (e : ε) : Along R (Eff.fail e : Eff ε σ α) := fun s => refl_of R s

lemma gets (f : σ → α) : Along R (Eff.gets f : Eff ε σ α) := fun s => refl_of R s

lemma ofExcept (a : Except ε α) : Along R (Eff.ofExcept a : Eff ε σ α) := fun s => refl_of R s

variable [IsTrans σ R]

lemma times (hx : Along R x) (n : ℕ) : Along R (Eff.times x n) := by
  induction n with
  | zero => exact pure _
  | succ n ih => exact hx.bind fun _ => ih.bind fun _ => pure _

lemma collect {next : Eff ε σ (Option α)} (hx : Along R next) (fuel : ℕ) :
    Along R (Eff.collect next fuel) := by
  induction fuel with
  | zero => exact pure _
  | succ fuel ih =>
      refine hx.bind fun a => ?_
      cases a with
      | none => exact pure _
      | some a => exact ih.bind fun _ => pure _

end Along

/-! ### Related states -/

/-- From related states, `x` ends in the same way and in related states. -/
def Respects (R : σ → σ → Prop) (x : Eff ε σ α) : Prop :=
  ∀ s t, R s t → (x.run s).1 = (x.run t).1 ∧ R (x.run s).2 (x.run t).2

namespace Respects

variable {R : σ → σ → Prop} {x : Eff ε σ α}

lemma pure (a : α) : Respects R (pure a : Eff ε σ α) := fun _ _ h => ⟨rfl, h⟩

lemma fail (e : ε) : Respects R (Eff.fail e : Eff ε σ α) := fun _ _ h => ⟨rfl, h⟩

lemma ofExcept (a : Except ε α) : Respects R (Eff.ofExcept a : Eff ε σ α) := fun _ _ h => ⟨rfl, h⟩

lemma gets {f : σ → α} (h : ∀ s t, R s t → f s = f t) : Respects R (Eff.gets f : Eff ε σ α) :=
  fun s t hst => ⟨congrArg Except.ok (h s t hst), hst⟩

lemma modify {f : σ → σ} (h : ∀ s t, R s t → R (f s) (f t)) :
    Respects R (Eff.modify f : Eff ε σ Unit) := fun s t hst => ⟨rfl, h s t hst⟩

/-- A run of it is followed by one from a related state. -/
lemma run (hx : Respects R x) {s t s' : σ} {a : Except ε α} (hst : R s t)
    (h : x.run s = (a, s')) : ∃ t', x.run t = (a, t') ∧ R s' t' := by
  obtain ⟨hout, hend⟩ := hx s t hst
  rw [h] at hout hend
  exact ⟨(x.run t).2, Prod.ext hout.symm rfl, hend⟩

/-- A sequence of two halves that respect the relation does. -/
lemma bind {f : α → Eff ε σ β} (hx : Respects R x) (hf : ∀ a, Respects R (f a)) :
    Respects R (x >>= f) := by
  intro s t hst
  obtain ⟨hout, hend⟩ := hx s t hst
  rw [run_bind, run_bind]
  rcases hs : x.run s with ⟨e | a, s'⟩
  all_goals rcases ht : x.run t with ⟨e' | a', t'⟩
  all_goals rw [hs, ht] at hout hend
  · exact ⟨congrArg Except.error (Except.error.inj hout), hend⟩
  · cases hout
  · cases hout
  · cases hout
    exact hf a s' t' hend

lemma ite {p : Prop} [Decidable p] {y : Eff ε σ α} (hx : Respects R x) (hy : Respects R y) :
    Respects R (if p then x else y) := by
  split_ifs
  · exact hx
  · exact hy

/-- A computation on a component respects what its effect on the component respects. -/
lemma zoom {R' : τ → τ → Prop} {y : Eff ε τ α} {get : σ → τ} {put : τ → σ → σ} (hy : Respects R' y)
    (hget : ∀ s t, R s t → R' (get s) (get t))
    (hput : ∀ s t a b, R s t → R' a b → R (put a s) (put b t)) :
    Respects R (Eff.zoom get put y) := by
  intro s t hst
  obtain ⟨hout, hend⟩ := hy _ _ (hget s t hst)
  exact ⟨hout, hput _ _ _ _ hst hend⟩

end Respects

/-! ### The errors of a computation -/

/-- From a state in `J`, a computation fails only with errors in `P`, and it ends in `J`. -/
def Raises (J : σ → Prop) (P : ε → Prop) (x : Eff ε σ α) : Prop :=
  ∀ s, J s → (∀ e, (x.run s).1 = .error e → P e) ∧ J (x.run s).2

namespace Raises

variable {J : σ → Prop} {K : τ → Prop} {P : ε → Prop} {x : Eff ε σ α}

lemma error (h : Raises J P x) {s s' : σ} {e : ε} (hs : J s) (hx : x.run s = (.error e, s')) :
    P e :=
  (h s hs).1 e (congrArg Prod.fst hx)

/-- A computation that fails with nothing else, from any state. -/
lemma of_errors (h : ∀ s e, (x.run s).1 = .error e → P e) : Raises (fun _ => True) P x :=
  fun s _ => ⟨h s, trivial⟩

lemma pure (a : α) : Raises J P (pure a : Eff ε σ α) := fun _ hs => ⟨nofun, hs⟩

lemma fail {e : ε} (h : P e) : Raises J P (Eff.fail e : Eff ε σ α) :=
  fun _ hs => ⟨fun _ he => Except.error.inj he ▸ h, hs⟩

lemma gets (f : σ → α) : Raises J P (Eff.gets f : Eff ε σ α) := fun _ hs => ⟨nofun, hs⟩

lemma modify {f : σ → σ} (h : ∀ s, J s → J (f s)) : Raises J P (Eff.modify f : Eff ε σ Unit) :=
  fun s hs => ⟨nofun, h s hs⟩

lemma modifyGet {f : σ → α × σ} (h : ∀ s, J s → J (f s).2) :
    Raises J P (Eff.modifyGet f : Eff ε σ α) :=
  fun s hs => ⟨nofun, h s hs⟩

lemma ofExcept {y : Except ε α} (h : ∀ e, y = .error e → P e) :
    Raises J P (Eff.ofExcept y : Eff ε σ α) :=
  fun _ hs => ⟨h, hs⟩

lemma bind {f : α → Eff ε σ β} (hx : Raises J P x) (hf : ∀ a, Raises J P (f a)) :
    Raises J P (x >>= f) := by
  intro s hs
  obtain ⟨herror, hend⟩ := hx s hs
  rw [run_bind]
  rcases hrun : x.run s with ⟨e | a, s'⟩
  · rw [hrun] at herror hend
    exact ⟨fun e' he => herror e' (congrArg Except.error (Except.error.inj he)), hend⟩
  · rw [hrun] at hend
    exact hf a s' hend

lemma ite {p : Prop} [Decidable p] {y : Eff ε σ α} (hx : Raises J P x) (hy : Raises J P y) :
    Raises J P (if p then x else y) := by
  split_ifs
  · exact hx
  · exact hy

/-- A computation on the first half of the state leaves what is asked of the second. -/
lemma onFst (hx : Raises (fun _ => True) P x) :
    Raises (fun s : σ × τ => K s.2) P (Eff.onFst x) :=
  fun s hs => ⟨(hx s.1 trivial).1, hs⟩

lemma onSnd {y : Eff ε τ α} (hy : Raises K P y) :
    Raises (fun s : σ × τ => K s.2) P (Eff.onSnd y) :=
  fun s hs => hy s.2 hs

lemma times (hx : Raises J P x) (n : ℕ) : Raises J P (Eff.times x n) := by
  induction n with
  | zero => exact pure []
  | succ n ih => exact hx.bind fun a => ih.bind fun as => pure (a :: as)

lemma collect {next : Eff ε σ (Option α)} (h : Raises J P next) (fuel : ℕ) :
    Raises J P (Eff.collect next fuel) := by
  induction fuel with
  | zero => exact pure []
  | succ fuel ih =>
      refine h.bind fun a => ?_
      cases a with
      | none => exact pure []
      | some a => exact ih.bind fun as => pure (a :: as)

/-- A failure that was turned into a value may be raised again. -/
lemma attempt_bind {f : Except ε α → Eff ε σ β} (hx : Raises J P x)
    (hok : ∀ a, Raises J P (f (.ok a))) (herror : ∀ e, P e → Raises J P (f (.error e))) :
    Raises J P (Eff.attempt x >>= f) := by
  intro s hs
  obtain ⟨hraised, hend⟩ := hx s hs
  rw [run_attempt_bind]
  rcases hrun : (x.run s).1 with e | a
  · exact herror e (hraised e hrun) _ hend
  · exact hok a _ hend

end Raises

/-! ### Failing first -/

/-- The computation never fails. -/
def Total (x : Eff ε σ α) : Prop := ∀ s, ∃ a t, x.run s = (.ok a, t)

/-- The computation fails in some state only if it fails in every state, and then leaves it alone. -/
def Guarded (x : Eff ε σ α) : Prop := ∀ s e, (x.run s).1 = .error e → ∀ t, x.run t = (.error e, t)

namespace Total

variable {x : Eff ε σ α}

lemma pure (a : α) : Total (pure a : Eff ε σ α) := fun s => ⟨a, s, rfl⟩

lemma modify (f : σ → σ) : Total (Eff.modify f : Eff ε σ Unit) := fun s => ⟨(), f s, rfl⟩

lemma modifyGet (f : σ → α × σ) : Total (Eff.modifyGet f : Eff ε σ α) :=
  fun s => ⟨(f s).1, (f s).2, rfl⟩

lemma bind {f : α → Eff ε σ β} (hx : Total x) (hf : ∀ a, Total (f a)) : Total (x >>= f) := by
  intro s
  obtain ⟨a, t, hs⟩ := hx s
  obtain ⟨b, u, ht⟩ := hf a t
  exact ⟨b, u, (run_bind_ok hs).trans ht⟩

lemma zoom {y : Eff ε τ α} {get : σ → τ} {put : τ → σ → σ} (hy : Total y) :
    Total (Eff.zoom get put y) := by
  intro s
  obtain ⟨a, t, hrun⟩ := hy (get s)
  exact ⟨a, put t s, run_zoom hrun⟩

lemma guarded (hx : Total x) : Guarded x := by
  intro s e he
  obtain ⟨a, t, hs⟩ := hx s
  rw [hs] at he
  cases he

end Total

namespace Guarded

variable {x : Eff ε σ α}

lemma pure (a : α) : Guarded (pure a : Eff ε σ α) := (Total.pure a).guarded

/-- What comes after a parser may fail first as well. -/
lemma ofExcept_bind (a : Except ε α) {f : α → Eff ε σ β} (hf : ∀ b, Guarded (f b)) :
    Guarded (Eff.ofExcept a >>= f) := by
  cases a with
  | error e =>
      intro s e' he t
      cases he
      rfl
  | ok b => exact hf b

lemma ite {p : Prop} [Decidable p] {y : Eff ε σ α} (hx : Guarded x) (hy : Guarded y) :
    Guarded (if p then x else y) := by
  split_ifs
  · exact hx
  · exact hy

/-- A computation that fails first, followed by one that does not fail. -/
lemma bind_total {f : α → Eff ε σ β} (hx : Guarded x) (hf : ∀ a, Total (f a)) :
    Guarded (x >>= f) := by
  intro s e he t
  rw [run_bind] at he
  rcases hs : x.run s with ⟨e' | a, s'⟩
  · rw [hs] at he
    cases he
    exact run_bind_error (hx s e (congrArg Prod.fst hs) t)
  · rw [hs] at he
    obtain ⟨b, u, hb⟩ := hf a s'
    simp only [hb] at he
    cases he

end Guarded

end Eff
