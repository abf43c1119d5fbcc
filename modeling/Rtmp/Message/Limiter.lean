import Rtmp.Message.Control

/-!
Limits in a row.

* `PeerBandwidthLimiter.feed`: a limiter after some limits;
* `PeerBandwidthLimiter.EffectivelyHard`: the limits that are adopted whatever the window is;
* `PeerBandwidthLimiter.closed_form` (**closed form**): the window in effect is the last of these,
  lowered by the soft limits after it, and the answers are the changes of the window.
-/

namespace Rtmp

/-- The smaller of two windows. -/
lemma min_window {a b : UInt32} (h : a ≤ b) : min a b = a ∧ min b a = a := by
  have hmin : ∀ c d : UInt32, min c d = if c ≤ d then c else d := fun _ _ => rfl
  rw [hmin, hmin, if_pos h]
  refine ⟨rfl, ?_⟩
  split_ifs with h'
  · exact UInt32.le_antisymm h' h
  · rfl

namespace PeerBandwidthLimiter

section Apply

variable (l : PeerBandwidthLimiter) (w : UInt32)

/-- The limiter after limits in a row. -/
def feed (l : PeerBandwidthLimiter) (limits : List (UInt32 × UInt8)) : PeerBandwidthLimiter :=
  limits.foldl (fun l p => (l.apply p.1 p.2).2) l

lemma snd_adopt : (l.adopt w).2 = ⟨some w, l.lastWasHard⟩ := by
  rw [adopt]
  split_ifs with h
  · rw [← h]
  · rfl

/-- The window after adopting one is the answer, or the window that was held. -/
lemma fst_adopt (d : UInt32) : (l.adopt w).1.getD (l.window.getD d) = w := by
  rw [adopt]
  split_ifs with h
  · rw [h]
    rfl
  · rfl

@[simp] lemma apply_hard : l.apply w peerBandwidthLimitHard
    = adopt w { l with lastWasHard := true } := rfl

@[simp] lemma apply_soft : l.apply w peerBandwidthLimitSoft
    = adopt (l.window.elim w fun cur => min cur w) { l with lastWasHard := false } := rfl

@[simp] lemma apply_dynamic : l.apply w peerBandwidthLimitDynamic
    = if l.lastWasHard then adopt w l else (none, l) := rfl

lemma apply_reserved {t : UInt8} (hhard : t ≠ peerBandwidthLimitHard)
    (hsoft : t ≠ peerBandwidthLimitSoft) (hdynamic : t ≠ peerBandwidthLimitDynamic) :
    l.apply w t = (none, l) := by
  rw [apply, if_neg hhard, if_neg hsoft, if_neg hdynamic]

/-- The answer to a limit is the new window, if it is another one. -/
lemma apply_getD (t : UInt8) (d : UInt32) :
    (l.apply w t).1.getD (l.window.getD d) = (l.apply w t).2.window.getD d := by
  have hadopt : ∀ (v : UInt32) (m : PeerBandwidthLimiter), m.window = l.window →
      (m.adopt v).1.getD (l.window.getD d) = (m.adopt v).2.window.getD d := by
    intro v m hm
    rw [← hm, fst_adopt, snd_adopt]
    rfl
  rw [apply]
  split_ifs
  · exact hadopt _ _ rfl
  · exact hadopt _ _ rfl
  · exact hadopt _ _ rfl
  · rfl
  · rfl

end Apply

/-! ### Which limits are hard -/

/-- The type of the last limit that was hard or soft by its type. -/
def lastType (limits : List (UInt32 × UInt8)) : Option UInt8 :=
  ((limits.map Prod.snd).filter fun t =>
    t = peerBandwidthLimitHard ∨ t = peerBandwidthLimitSoft).getLast?

/-- After the limits `before`, the limit counts as hard. -/
def EffectivelyHard (before : List (UInt32 × UInt8)) (p : UInt32 × UInt8) : Prop :=
  p.2 = peerBandwidthLimitHard ∨
    p.2 = peerBandwidthLimitDynamic ∧ lastType before = some peerBandwidthLimitHard

/-- The windows of the soft limits. -/
def softs (limits : List (UInt32 × UInt8)) : List UInt32 :=
  (limits.filter fun p => p.2 = peerBandwidthLimitSoft).map Prod.fst

/-- None of the limits that come after `before` counts as hard. -/
def NoneHard (before after : List (UInt32 × UInt8)) : Prop :=
  ∀ mid p rest, after = mid ++ p :: rest → ¬ EffectivelyHard (before ++ mid) p

lemma feed_append (limits limits' : List (UInt32 × UInt8)) :
    feed .new (limits ++ limits') = feed (feed .new limits) limits' := List.foldl_append

lemma feed_snoc (limits : List (UInt32 × UInt8)) (p : UInt32 × UInt8) :
    feed .new (limits ++ [p]) = ((feed .new limits).apply p.1 p.2).2 := by
  rw [feed_append]
  rfl

lemma lastType_snoc (limits : List (UInt32 × UInt8)) (p : UInt32 × UInt8) :
    lastType (limits ++ [p]) = if p.2 = peerBandwidthLimitHard ∨ p.2 = peerBandwidthLimitSoft
      then some p.2 else lastType limits := by
  rw [lastType, List.map_append, List.filter_append, List.map_singleton]
  split_ifs with h
  · rw [List.filter_cons_of_pos (by simpa using h), List.filter_nil, List.getLast?_concat]
  · rw [List.filter_cons_of_neg (by simpa using h), List.filter_nil, List.append_nil, lastType]

lemma softs_snoc (limits : List (UInt32 × UInt8)) (p : UInt32 × UInt8) :
    softs (limits ++ [p]) = softs limits ++ if p.2 = peerBandwidthLimitSoft then [p.1] else [] := by
  rw [softs, List.filter_append, List.map_append, softs]
  split_ifs with h
  · rw [List.filter_cons_of_pos (by simpa using h)]
    rfl
  · rw [List.filter_cons_of_neg (by simpa using h)]
    rfl

/-- The limiter remembers whether the last limit was hard. -/
lemma lastWasHard_feed (limits : List (UInt32 × UInt8)) :
    (feed .new limits).lastWasHard = true ↔ lastType limits = some peerBandwidthLimitHard := by
  induction limits using List.reverseRecOn with
  | nil => simp [feed, new, lastType]
  | append_singleton limits p ih =>
      obtain ⟨w, t⟩ := p
      rw [feed_snoc, lastType_snoc]
      by_cases hhard : t = peerBandwidthLimitHard
      · subst hhard
        simp [snd_adopt]
      by_cases hsoft : t = peerBandwidthLimitSoft
      · subst hsoft
        simp [snd_adopt, hhard]
      rw [if_neg (not_or.mpr ⟨hhard, hsoft⟩), ← ih]
      by_cases hdynamic : t = peerBandwidthLimitDynamic
      · subst hdynamic
        rw [apply_dynamic]
        split_ifs with hlast
        · rw [snd_adopt]
        · rfl
      · rw [apply_reserved _ _ hhard hsoft hdynamic]

/-! ### The window -/

/-- A limit that counts as hard is adopted. -/
lemma window_hard {before : List (UInt32 × UInt8)} {p : UInt32 × UInt8} (h : EffectivelyHard before p) :
    (feed .new (before ++ [p])).window = some p.1 := by
  obtain ⟨w, t⟩ := p
  rw [feed_snoc]
  rcases h with h | ⟨h, hlast⟩
  · obtain rfl : t = peerBandwidthLimitHard := h
    rw [apply_hard, snd_adopt]
  · obtain rfl : t = peerBandwidthLimitDynamic := h
    rw [apply_dynamic, if_pos ((lastWasHard_feed before).mpr hlast), snd_adopt]

/-- One more window lowers the minimum. -/
lemma min?_snoc (ws : List UInt32) (w : UInt32) :
    (ws ++ [w]).min? = some (ws.min?.elim w fun cur => min cur w) := by
  cases ws with
  | nil => rfl
  | cons first rest =>
      rw [List.cons_append, List.min?_cons', List.min?_cons', List.foldl_append]
      rfl

/-- Limits of which none counts as hard only lower the window. -/
lemma window_soft {before after : List (UInt32 × UInt8)} (h : NoneHard before after) :
    (feed .new (before ++ after)).window
      = ((feed .new before).window.toList ++ softs after).min? := by
  induction after using List.reverseRecOn with
  | nil =>
      rw [List.append_nil, show softs [] = [] from rfl, List.append_nil]
      cases (feed .new before).window <;> rfl
  | append_singleton after p ih =>
      have hleft : NoneHard before after := fun mid q rest hafter =>
        h mid q (rest ++ [p]) (by rw [hafter, List.append_assoc, List.cons_append])
      have hp : ¬ EffectivelyHard (before ++ after) p := h after p [] rfl
      have hwindow := ih hleft
      rw [← List.append_assoc, feed_snoc, softs_snoc]
      obtain ⟨w, t⟩ := p
      by_cases hhard : t = peerBandwidthLimitHard
      · exact absurd (.inl hhard) hp
      by_cases hsoft : t = peerBandwidthLimitSoft
      · subst hsoft
        rw [apply_soft, snd_adopt, if_pos rfl, ← List.append_assoc, min?_snoc, ← hwindow]
      rw [if_neg hsoft, List.append_nil, ← hwindow]
      by_cases hdynamic : t = peerBandwidthLimitDynamic
      · subst hdynamic
        have hlast : ¬ (feed .new (before ++ after)).lastWasHard = true := fun hlast =>
          hp (.inr ⟨rfl, (lastWasHard_feed _).mp hlast⟩)
        rw [apply_dynamic, if_neg hlast]
      · rw [apply_reserved _ _ hhard hsoft hdynamic]

/-! ### The answers -/

/-- What one limit can do: leave the window and answer nothing, or change it and answer the new one. -/
lemma apply_cases (l : PeerBandwidthLimiter) (p : UInt32 × UInt8) :
    (l.apply p.1 p.2).1 = none ∧ (l.apply p.1 p.2).2.window = l.window ∨
      ∃ w, (l.apply p.1 p.2).1 = some w ∧ (l.apply p.1 p.2).2.window = some w ∧ l.window ≠ some w := by
  have hadopt : ∀ (v : UInt32) (m : PeerBandwidthLimiter), m.window = l.window →
      (m.adopt v).1 = none ∧ (m.adopt v).2.window = l.window ∨
        ∃ w, (m.adopt v).1 = some w ∧ (m.adopt v).2.window = some w ∧ l.window ≠ some w := by
    intro v m hm
    rw [adopt, hm]
    by_cases hsame : l.window = some v
    · rw [if_pos hsame]
      exact .inl ⟨rfl, hm⟩
    · rw [if_neg hsame]
      exact .inr ⟨v, rfl, rfl, hsame⟩
  rw [apply]
  by_cases hhard : p.2 = peerBandwidthLimitHard
  · rw [if_pos hhard]
    exact hadopt _ _ rfl
  rw [if_neg hhard]
  by_cases hsoft : p.2 = peerBandwidthLimitSoft
  · rw [if_pos hsoft]
    exact hadopt _ _ rfl
  rw [if_neg hsoft]
  by_cases hdynamic : p.2 = peerBandwidthLimitDynamic
  · rw [if_pos hdynamic]
    by_cases hlast : l.lastWasHard
    · rw [if_pos hlast]
      exact hadopt _ _ rfl
    · rw [if_neg hlast]
      exact .inl ⟨rfl, rfl⟩
  · rw [if_neg hdynamic]
    exact .inl ⟨rfl, rfl⟩

/-- The answer is the window, if that is another one. -/
lemma answer_iff (l : PeerBandwidthLimiter) (p : UInt32 × UInt8) (w : UInt32) :
    (l.apply p.1 p.2).1 = some w ↔
      (l.apply p.1 p.2).2.window ≠ l.window ∧ (l.apply p.1 p.2).2.window = some w := by
  rcases apply_cases l p with ⟨hanswer, hwindow⟩ | ⟨v, hanswer, hwindow, hchange⟩
  · rw [hanswer, hwindow]
    exact iff_of_false nofun fun h => h.1 rfl
  · rw [hanswer, hwindow]
    exact (and_iff_right fun h => hchange h.symm).symm

/-- The answers to limits in a row that were not empty. -/
def answers (l : PeerBandwidthLimiter) : List (UInt32 × UInt8) → List UInt32
  | [] => []
  | p :: limits => (l.apply p.1 p.2).1.toList ++ answers (l.apply p.1 p.2).2 limits

lemma answers_snoc (l : PeerBandwidthLimiter) (limits : List (UInt32 × UInt8)) (p : UInt32 × UInt8) :
    answers l (limits ++ [p]) = answers l limits ++ ((feed l limits).apply p.1 p.2).1.toList := by
  induction limits generalizing l with
  | nil => simp [answers, feed]
  | cons q limits ih =>
      rw [List.cons_append, answers, ih, answers, List.append_assoc]
      rfl

/-- The last answer is the window, and no answer is repeated. -/
lemma answers_chain (limits : List (UInt32 × UInt8)) :
    (answers .new limits).getLast? = (feed .new limits).window ∧
      (answers .new limits).IsChain (· ≠ ·) := by
  induction limits using List.reverseRecOn with
  | nil => exact ⟨rfl, .nil⟩
  | append_singleton limits p ih =>
      obtain ⟨hlast, hchain⟩ := ih
      rw [answers_snoc, feed_snoc]
      rcases apply_cases (feed .new limits) p with ⟨hanswer, hwindow⟩ | ⟨w, hanswer, hwindow, hchange⟩
      · rw [hanswer, hwindow, Option.toList_none, List.append_nil]
        exact ⟨hlast, hchain⟩
      · rw [hanswer, hwindow, Option.toList_some, List.getLast?_concat]
        refine ⟨rfl, List.isChain_append.mpr ⟨hchain, .singleton w, fun x hx y hy => ?_⟩⟩
        rw [hlast] at hx
        cases hy
        rintro rfl
        exact hchange hx

/-- **Closed form**: for all limits in a row, the window in effect is the last one that counts as hard,
lowered to the minimum of the soft ones after it, or the minimum of all soft ones if none counts as
hard.  A limit is answered by the window it leads to, if and only if that is another window than before;
so no answer is the one before it, and the last one is the window in effect. -/
theorem closed_form (limits : List (UInt32 × UInt8)) :
    (∀ before p after, limits = before ++ p :: after → EffectivelyHard before p →
      NoneHard (before ++ [p]) after → (feed .new limits).window = (p.1 :: softs after).min?) ∧
    (NoneHard [] limits → (feed .new limits).window = (softs limits).min?) ∧
    (∀ before p after, limits = before ++ p :: after → ∀ w,
      ((feed .new before).apply p.1 p.2).1 = some w ↔
        (feed .new (before ++ [p])).window ≠ (feed .new before).window ∧
          (feed .new (before ++ [p])).window = some w) ∧
    (answers .new limits).IsChain (· ≠ ·) ∧
    (answers .new limits).getLast? = (feed .new limits).window := by
  refine ⟨?_, fun h => ?_, ?_, (answers_chain limits).2, (answers_chain limits).1⟩
  · rintro before p after rfl hhard hnone
    have hwindow := window_soft hnone
    rw [List.append_assoc, List.singleton_append, window_hard hhard] at hwindow
    exact hwindow
  · exact window_soft h
  · rintro before p after - w
    rw [feed_snoc]
    exact answer_iff _ p w

end PeerBandwidthLimiter

end Rtmp
