import Rtmp.Lib.Eff

/-!
Counting the calls of a recursion.

A recursive program over a state `σ` is metered by a second one over `σ × Meter L`, which does the
same and keeps count: the calls made, the level of the call that runs, the highest level reached.
The second one `Tracks` the first if from every state it ends as the first does, in the same state,
and its counts are paid for out of a budget `left` that the program uses up, such as unread input.

* `Takes`: what a computation uses up of the budget at least, if it succeeds;
* `Meter.refuse` is a call turned away at the door, `Meter.level` one that is let in;
* `Spent.trans`: what two runs in a row have spent;
* `Tracks.quiet`, `Tracks.paid`, `Tracks.bind`, `Tracks.times`, `Tracks.collect`, …: one rule for each
  construct.  A call pays for itself out of what it uses up before it calls again
  (**`Tracks.level`**), so one unit is owed only by a call that failed;
* `Tracks.collect`: a loop that uses up something in each round is not ended by its fuel.
-/

/-- The calls made so far, the level of the call that runs, and the highest level so far. -/
structure Meter (L : Type) where
  calls : ℕ
  live : L
  peak : L
  deriving DecidableEq, Repr

namespace Meter

variable {ε σ τ α β L : Type}

/-- Count a call that is let in, `l` above its caller. -/
def enter [Add L] [Max L] (l : L) (g : Meter L) : Meter L :=
  ⟨g.calls + 1, g.live + l, g.peak ⊔ (g.live + l)⟩

/-- A call that is turned away with the error `e`. -/
def refuse (e : ε) : Eff ε (σ × Meter L) α where
  run s := (.error e, (s.1, { s.2 with calls := s.2.calls + 1 }))

/-- A call that runs `body`; its caller's level is the live one again however the body ends. -/
def level [Add L] [Max L] (l : L) (body : Eff ε (σ × Meter L) α) : Eff ε (σ × Meter L) α where
  run s :=
    let r := body.run (s.1, s.2.enter l)
    (r.1, (r.2.1, { r.2.2 with live := s.2.live }))

/-- Run a metered computation on one component of the state. -/
def zoom (get : σ → τ) (put : τ → σ → σ) (x : Eff ε (τ × Meter L) α) : Eff ε (σ × Meter L) α :=
  Eff.zoom (fun s => (get s.1, s.2)) (fun t s => (put t.1 s.1, t.2)) x

/-- A run that failed may have made one call more than it paid for. -/
def overdraft : Except ε α → ℕ
  | .ok _ => 0
  | .error _ => 1

lemma run_level [Add L] [Max L] {l : L} {x : Eff ε (σ × Meter L) α} {s t : σ} {g g' : Meter L}
    {a : Except ε α} (h : x.run (s, g.enter l) = (a, (t, g'))) :
    (level l x).run (s, g) = (a, (t, { g' with live := g.live })) := by
  simp only [level, h]

lemma run_zoom {get : σ → τ} {put : τ → σ → σ} {x : Eff ε (τ × Meter L) α} {s : σ} {t : τ}
    {g g' : Meter L} {a : Except ε α} (h : x.run (get s, g) = (a, (t, g'))) :
    (zoom get put x).run (s, g) = (a, (put t s, g')) := by
  simp only [zoom, Eff.zoom, h]

/-! ### What is used up -/

/-- A run of `x` that succeeds uses up `n` units of `left`, or more. -/
def Takes (left : σ → ℕ) (n : ℕ) (x : Eff ε σ α) : Prop :=
  ∀ s a t, x.run s = (.ok a, t) → left t + n ≤ left s

namespace Takes

variable {left : σ → ℕ} {n : ℕ} {x : Eff ε σ α}

lemma pure (a : α) : Takes left 0 (pure a : Eff ε σ α) := by
  intro s b t h
  cases h
  exact Nat.le_refl _

lemma mono (h : Takes left n x) {m : ℕ} (hm : m ≤ n) : Takes left m x :=
  fun s a t hx => (Nat.add_le_add_left hm (left t)).trans (h s a t hx)

lemma of_along {R : σ → σ → Prop} (hle : ∀ s t, R s t → left t ≤ left s) (hR : Eff.Along R x) :
    Takes left 0 x :=
  fun s _ t h => hle s t (hR.of_run h)

/-- What comes first uses up enough. -/
lemma bind_left {f : α → Eff ε σ β} (hx : Takes left n x) (hf : ∀ a, Takes left 0 (f a)) :
    Takes left n (x >>= f) := by
  intro s b t h
  obtain ⟨a, s', ha, hb⟩ := Eff.run_bind_eq_ok.mp h
  have hfirst := hx s a s' ha
  have hrest := hf a s' b t hb
  omega

/-- What comes after it does. -/
lemma bind_right {f : α → Eff ε σ β} (hx : Takes left 0 x) (hf : ∀ a, Takes left n (f a)) :
    Takes left n (x >>= f) := by
  intro s b t h
  obtain ⟨a, s', ha, hb⟩ := Eff.run_bind_eq_ok.mp h
  have hfirst := hx s a s' ha
  have hrest := hf a s' b t hb
  omega

/-- Each round of a counted loop does. -/
lemma times (hx : Takes left 1 x) (k : ℕ) : Takes left k (Eff.times x k) := by
  induction k with
  | zero => exact pure []
  | succ k ih =>
      intro s as t h
      obtain ⟨a, as', s', -, ha, has⟩ := Eff.run_times_succ_eq_ok.mp h
      have hfirst := hx s a s' ha
      have hrest := ih s' as' t has
      omega

/-- Too little of it is left for a run to succeed. -/
lemma fails (hx : Takes left n x) {s : σ} (hs : left s < n) : ∃ e, (x.run s).1 = .error e := by
  rcases hrun : x.run s with ⟨e | a, t⟩
  · exact ⟨e, rfl⟩
  · have htaken := hx s a t hrun
    omega

end Takes

section Spent

variable [AddCommMonoid L] [Lattice L]

/-- What a run from `s` to `t` did to the meter: it made a call for each unit of `left` it used up,
but for `n` units that it used up on top, and climbed at most `room` levels. -/
structure Spent (R : σ → σ → Prop) (left : σ → ℕ) (n : ℕ) (room : L) (s : σ) (g : Meter L)
    (a : Except ε α) (t : σ) (g' : Meter L) : Prop where
  along : R s t
  calls : g'.calls + left t + n ≤ g.calls + left s + overdraft a
  live : g'.live = g.live
  peak : g'.peak ≤ g.peak ⊔ (g.live + room)

/-- From `s` and `g`, `x'` ends as `x` does, and has `Spent` so much. -/
def TracksAt (R : σ → σ → Prop) (left : σ → ℕ) (n : ℕ) (room : L) (x : Eff ε σ α)
    (x' : Eff ε (σ × Meter L) α) (s : σ) (g : Meter L) : Prop :=
  ∃ g', x'.run (s, g) = ((x.run s).1, ((x.run s).2, g')) ∧
    Spent R left n room s g (x.run s).1 (x.run s).2 g'

/-- The same from every state that a run from `base` may come through. -/
def Tracks (R : σ → σ → Prop) (left : σ → ℕ) (base : σ) (n : ℕ) (room : L) (x : Eff ε σ α)
    (x' : Eff ε (σ × Meter L) α) : Prop :=
  ∀ s g, R base s → TracksAt R left n room x x' s g

variable {R : σ → σ → Prop} {left : σ → ℕ} {base s t u : σ} {n : ℕ} {room room' : L}
  {g g₁ g₂ : Meter L} {x : Eff ε σ α} {x' : Eff ε (σ × Meter L) α}

lemma Spent.trans [IsTrans σ R] {a : α} {b : Except ε β}
    (h₁ : Spent R left n room s g (.ok a : Except ε α) t g₁)
    (h₂ : Spent R left 0 room t g₁ b u g₂) : Spent R left n room s g b u g₂ where
  along := trans_of R h₁.along h₂.along
  calls := by
    have hfirst := h₁.calls
    have hsecond := h₂.calls
    simp only [overdraft] at hfirst
    omega
  live := h₂.live.trans h₁.live
  peak := by
    have hpeak := h₂.peak
    rw [h₁.live] at hpeak
    exact hpeak.trans (sup_le h₁.peak le_sup_right)

/-- More room does no harm. -/
lemma Spent.mono [IsOrderedAddMonoid L] {a : Except ε α} (h : Spent R left n room s g a t g₁)
    (hroom : room ≤ room') : Spent R left n room' s g a t g₁ where
  along := h.along
  calls := h.calls
  live := h.live
  peak := h.peak.trans (sup_le_sup_left (add_le_add_right hroom g.live) g.peak)

namespace TracksAt

/-- What runs after `x` does so from where `x` ended. -/
lemma bind [IsTrans σ R] {f : α → Eff ε σ β} {f' : α → Eff ε (σ × Meter L) β}
    (hx : TracksAt R left n room x x' s g)
    (hf : ∀ a t g₁, x.run s = (.ok a, t) → R s t → TracksAt R left 0 room (f a) (f' a) t g₁) :
    TracksAt R left n room (x >>= f) (x' >>= f') s g := by
  obtain ⟨g₁, hrun, hspent⟩ := hx
  rcases hfirst : x.run s with ⟨e | a, t⟩
  · rw [hfirst] at hrun hspent
    rw [TracksAt, Eff.run_bind_error hfirst, Eff.run_bind_error hrun]
    exact ⟨g₁, rfl, hspent.along, hspent.calls, hspent.live, hspent.peak⟩
  · rw [hfirst] at hrun hspent
    rw [TracksAt, Eff.run_bind_ok hfirst, Eff.run_bind_ok hrun]
    obtain ⟨g₂, hrun₂, hspent₂⟩ := hf a t g₁ hfirst hspent.along
    exact ⟨g₂, hrun₂, hspent.trans hspent₂⟩

/-- A component of the state is tracked as part of the whole. -/
lemma zoom {R' : τ → τ → Prop} {left' : τ → ℕ} (get : σ → τ) (put : τ → σ → σ) {y : Eff ε τ α}
    {y' : Eff ε (τ × Meter L) α} (h : TracksAt R' left' n room y y' (get s) g)
    (hget : left s = left' (get s)) (hput : ∀ t, left (put t s) = left' t)
    (hR : ∀ t, R' (get s) t → R s (put t s)) :
    TracksAt R left n room (Eff.zoom get put y) (Meter.zoom get put y') s g := by
  obtain ⟨g', hrun, hspent⟩ := h
  refine ⟨g', Meter.run_zoom hrun, hR _ hspent.along, ?_, hspent.live, hspent.peak⟩
  rw [hget, Eff.zoom, hput]
  exact hspent.calls

end TracksAt

namespace Tracks

lemma mono [IsOrderedAddMonoid L] (h : Tracks R left base n room x x') (hroom : room ≤ room') :
    Tracks R left base n room' x x' := by
  intro s g hs
  obtain ⟨g', hrun, hspent⟩ := h s g hs
  exact ⟨g', hrun, hspent.mono hroom⟩

lemma ite {p : Prop} [Decidable p] {y : Eff ε σ α} {y' : Eff ε (σ × Meter L) α}
    (hx : p → Tracks R left base n room x x') (hy : ¬ p → Tracks R left base n room y y') :
    Tracks R left base n room (if p then x else y) (if p then x' else y') := by
  split_ifs with hp
  · exact hx hp
  · exact hy hp

/-! ### Computations that call nothing -/

lemma lift (hR : Eff.Along R x)
    (hleft : ∀ s, left (x.run s).2 + n ≤ left s + overdraft (x.run s).1) :
    Tracks R left base n room x (Eff.onFst x) := by
  intro s g _
  refine ⟨g, rfl, hR s, ?_, rfl, le_sup_left⟩
  have h := hleft s
  omega

/-- It uses up nothing, perhaps. -/
lemma quiet (hle : ∀ s t, R s t → left t ≤ left s) (hR : Eff.Along R x) :
    Tracks R left base 0 room x (Eff.onFst x) :=
  lift hR fun s => (hle _ _ (hR s)).trans (Nat.le_add_right _ _)

/-- It uses up something unless it fails. -/
lemma paid (hle : ∀ s t, R s t → left t ≤ left s) (hR : Eff.Along R x)
    (htakes : Takes left 1 x) : Tracks R left base 1 room x (Eff.onFst x) := by
  refine lift hR fun s => ?_
  rcases hx : x.run s with ⟨e | a, t⟩
  · exact Nat.add_le_add_right (hle s t (hR.of_run hx)) 1
  · exact htakes s a t hx

lemma pure [Std.Refl R] (a : α) : Tracks R left base 0 room (pure a : Eff ε σ α) (pure a) :=
  fun s _ _ => ⟨_, rfl, refl_of R s, le_rfl, rfl, le_sup_left⟩

lemma fail [Std.Refl R] (e : ε) :
    Tracks R left base 0 room (Eff.fail e : Eff ε σ α) (Eff.fail e) :=
  fun s _ _ => ⟨_, rfl, refl_of R s, Nat.le_succ _, rfl, le_sup_left⟩

/-! ### Calls -/

/-- A call that is turned away is the one that is not paid for. -/
lemma refuse [Std.Refl R] (e : ε) :
    Tracks R left base 0 room (Eff.fail e : Eff ε σ α) (Meter.refuse e) := by
  intro s g _
  refine ⟨_, rfl, refl_of R s, ?_, rfl, le_sup_left⟩
  simp only [Eff.run_fail, overdraft]
  omega

/-- **A call pays for itself** out of what its body uses up on top of the calls that it makes. -/
lemma level [IsOrderedAddMonoid L] [CanonicallyOrderedAdd L] (l : L)
    (h : Tracks R left base 1 room x x') :
    Tracks R left base 0 (l + room) x (Meter.level l x') := by
  intro s g hs
  obtain ⟨g', hrun, hspent⟩ := h s (g.enter l) hs
  refine ⟨{ g' with live := g.live }, run_level hrun, hspent.along, ?_, rfl, ?_⟩
  · have hcalls := hspent.calls
    simp only [enter] at hcalls ⊢
    omega
  · refine hspent.peak.trans ?_
    simp only [enter, add_assoc]
    have hstep : g.live + l ≤ g.live + (l + room) := add_le_add_right le_self_add g.live
    exact sup_le (sup_le_sup_left hstep g.peak) le_sup_right

/-- An update of the state before `x`, and one after it whichever way it ended. -/
lemma around {enter leave : Eff ε σ Unit} (before after : σ → σ)
    (henter : ∀ s, enter.run s = (.ok (), before s)) (hleave : ∀ s, leave.run s = (.ok (), after s))
    (hx : Tracks R left (before base) n room x x')
    (hbefore : ∀ s, R base s → R (before base) (before s) ∧ left (before s) = left s)
    (hafter : ∀ s t, R (before s) t → R s (after t) ∧ left (after t) = left t) :
    Tracks R left base n room
      (do
        enter
        let result ← Eff.attempt x
        leave
        Eff.ofExcept result)
      (do
        Eff.onFst enter
        let result ← Eff.attempt x'
        Eff.onFst leave
        Eff.onFst (Eff.ofExcept result)) := by
  intro s g hs
  obtain ⟨hbase, hleft⟩ := hbefore s hs
  obtain ⟨g', hrun, hspent⟩ := hx (before s) g hbase
  obtain ⟨hR, hleft'⟩ := hafter s _ hspent.along
  rw [TracksAt, Eff.run_bind_ok (henter s), Eff.run_bind_ok (Eff.run_onFst (henter s)),
    Eff.run_attempt_bind, Eff.run_attempt_bind, hrun, Eff.run_bind_ok (hleave _),
    Eff.run_bind_ok (Eff.run_onFst (hleave _))]
  refine ⟨g', rfl, hR, ?_, hspent.live, hspent.peak⟩
  have hcalls := hspent.calls
  simp only [Eff.run_ofExcept, hleft']
  omega

/-! ### Sequences -/

section Sequence

variable [IsTrans σ R]

lemma bind {f : α → Eff ε σ β} {f' : α → Eff ε (σ × Meter L) β}
    (hx : Tracks R left base n room x x') (hf : ∀ a, Tracks R left base 0 room (f a) (f' a)) :
    Tracks R left base n room (x >>= f) (x' >>= f') :=
  fun s g hs => (hx s g hs).bind fun a t g₁ _ hst => hf a t g₁ (trans_of R hs hst)

/-- A failure that is caught to be raised in another form. -/
lemma attempt_bind {f : Except ε α → Eff ε σ β} {f' : Except ε α → Eff ε (σ × Meter L) β}
    {raised : ε → ε} (hx : Tracks R left base n room x x')
    (hok : ∀ a, Tracks R left base 0 room (f (.ok a)) (f' (.ok a)))
    (hf : ∀ e, f (.error e) = Eff.fail (raised e)) (hf' : ∀ e, f' (.error e) = Eff.fail (raised e)) :
    Tracks R left base n room (Eff.attempt x >>= f) (Eff.attempt x' >>= f') := by
  intro s g hs
  obtain ⟨g₁, hrun, hspent⟩ := hx s g hs
  rw [TracksAt, Eff.run_attempt_bind, Eff.run_attempt_bind, hrun]
  rcases hfirst : x.run s with ⟨e | a, t⟩
  · rw [hfirst] at hspent
    simp only [hf, hf', Eff.run_fail]
    exact ⟨g₁, rfl, hspent.along, hspent.calls, hspent.live, hspent.peak⟩
  · rw [hfirst] at hspent
    obtain ⟨g₂, hrun₂, hspent₂⟩ := hok a t g₁ (trans_of R hs hspent.along)
    exact ⟨g₂, hrun₂, hspent.trans hspent₂⟩

/-! ### Loops -/

variable [Std.Refl R]

lemma times (hx : Tracks R left base 0 room x x') (k : ℕ) :
    Tracks R left base 0 room (Eff.times x k) (Eff.times x' k) := by
  induction k with
  | zero => exact pure []
  | succ k ih => exact hx.bind fun a => ih.bind fun as => pure (a :: as)

/-- **A loop that uses up something in each round** comes to its own end, however many rounds more it
is allowed. -/
lemma collect {next : Eff ε σ (Option α)} {next' : Eff ε (σ × Meter L) (Option α)}
    (h : Tracks R left base 0 room next next')
    (hlt : ∀ s t a, next.run s = (.ok (some a), t) → left t < left s) {fuel fuel' : ℕ}
    (hfuel : fuel ≤ fuel') (hs : R base s) (hleft : left s < fuel) :
    TracksAt R left 0 room (Eff.collect next fuel) (Eff.collect next' fuel') s g := by
  induction fuel generalizing fuel' s g with
  | zero => exact absurd hleft (Nat.not_lt_zero _)
  | succ fuel ih =>
      obtain ⟨fuel', rfl⟩ := Nat.exists_eq_succ_of_ne_zero (Nat.ne_zero_of_lt hfuel)
      refine (h s g hs).bind fun a t g₁ hround hst => ?_
      have ht : R base t := trans_of R hs hst
      cases a with
      | none => exact pure [] t g₁ ht
      | some a =>
          have hless := hlt s t a hround
          refine (ih (Nat.le_of_succ_le_succ hfuel) ht (by omega)).bind fun as u g₂ _ htu => ?_
          exact pure (a :: as) u g₂ (trans_of R ht htu)

end Sequence

end Tracks

end Spent

end Meter
