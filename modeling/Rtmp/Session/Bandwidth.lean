import Rtmp.Message.Limiter
import Rtmp.Session.Delivery
import Rtmp.Session.Limits

/-!
The acknowledgement window over a whole connection.

* `limiterOf`, `windowInEffect`: one limiter fed all the limits of some messages, and the window it
  holds;
* `TakesUp`, `PassesOver`, `Resumes`: when adopting a limit whatever its type, ignoring it, and starting
  with a fresh limiter do what that limiter does;
* `Followed`: a connection on which each phase has only such limits;
* `bandwidth_window` (**the window in effect**): on the server and on both clients.
-/

namespace Rtmp

open PeerBandwidthLimiter (feed)

/-! ### One limiter for all -/

/-- The limits of messages. -/
def bandwidths (msgs : List Message) : List (UInt32 × UInt8) := msgs.filterMap limitOf

/-- The last window that messages announce. -/
def announcedWindow (msgs : List Message) : UInt32 := ((msgs.filterMap windowOf).getLast?).getD 0

/-- The limiter that was fed every limit. -/
def limiterOf (msgs : List Message) : PeerBandwidthLimiter := .feed .new (bandwidths msgs)

/-- The window it holds; as long as it holds none, the one that was announced. -/
def windowInEffect (msgs : List Message) : UInt32 :=
  (limiterOf msgs).window.getD (announcedWindow msgs)

/-- No window is announced once there was a limit. -/
def Uninterrupted (msgs : List Message) : Prop :=
  ∀ pre msg post, msgs = pre ++ msg :: post → windowOf msg ≠ none → bandwidths pre = []

variable {msgs : List Message} {msg : Message}

lemma Uninterrupted.left {msgs' : List Message} (h : Uninterrupted (msgs ++ msgs')) :
    Uninterrupted msgs := by
  intro pre msg post hmsgs
  refine h pre msg (post ++ msgs') ?_
  rw [hmsgs, List.append_assoc, List.cons_append]

lemma limiterOf_snoc (msgs : List Message) (msg : Message) :
    limiterOf (msgs ++ [msg])
      = (limitOf msg).elim (limiterOf msgs) fun p => ((limiterOf msgs).apply p.1 p.2).2 := by
  rw [limiterOf, bandwidths, List.filterMap_append, feed, List.foldl_append]
  cases h : limitOf msg with
  | none =>
      rw [List.filterMap_cons_none h]
      rfl
  | some p =>
      rw [List.filterMap_cons_some h]
      rfl

lemma announcedWindow_snoc (msgs : List Message) (msg : Message) :
    announcedWindow (msgs ++ [msg]) = (windowOf msg).getD (announcedWindow msgs) := by
  rw [announcedWindow, List.filterMap_append]
  cases h : windowOf msg with
  | none =>
      rw [List.filterMap_cons_none h, List.filterMap_nil, List.append_nil]
      rfl
  | some w =>
      rw [List.filterMap_cons_some h, List.filterMap_nil, List.getLast?_concat]
      rfl

/-- A message that limits announces no window. -/
lemma windowOf_of_limitOf {p : UInt32 × UInt8} (h : limitOf msg = some p) : windowOf msg = none := by
  rw [limitOf] at h
  split_ifs at h with htype
  rw [windowOf, if_neg (by rw [htype]; decide)]

/-- An announced window is in effect. -/
lemma windowInEffect_window {w : UInt32} (h : Uninterrupted (msgs ++ [msg]))
    (hw : windowOf msg = some w) : windowInEffect (msgs ++ [msg]) = w ∧ limiterOf msgs = .new := by
  have hnone : bandwidths msgs = [] := h msgs msg [] rfl (by rw [hw]; exact Option.some_ne_none w)
  have hlimit : limitOf msg = none := by
    cases hlimit : limitOf msg with
    | none => rfl
    | some p =>
        rw [windowOf_of_limitOf hlimit] at hw
        cases hw
  have hnew : limiterOf msgs = .new := by
    rw [limiterOf, hnone]
    rfl
  refine ⟨?_, hnew⟩
  rw [windowInEffect, limiterOf_snoc, announcedWindow_snoc, hlimit, hw, Option.elim_none, hnew]
  rfl

lemma windowInEffect_limit {p : UInt32 × UInt8} (h : limitOf msg = some p) :
    windowInEffect (msgs ++ [msg])
      = ((limiterOf msgs).apply p.1 p.2).2.window.getD (announcedWindow msgs) := by
  rw [windowInEffect, limiterOf_snoc, announcedWindow_snoc, h, windowOf_of_limitOf h]
  rfl

lemma windowInEffect_other (hw : windowOf msg = none) (h : limitOf msg = none) :
    windowInEffect (msgs ++ [msg]) = windowInEffect msgs := by
  rw [windowInEffect, limiterOf_snoc, announcedWindow_snoc, h, hw]
  rfl

/-! ### What each phase does right -/

/-- After these messages, the window of the limit is the one in effect. -/
def TakesUp (before : List Message) (p : UInt32 × UInt8) : Prop :=
  p.2 = peerBandwidthLimitHard ∨
    p.2 = peerBandwidthLimitSoft ∧ (∀ cur, (limiterOf before).window = some cur → p.1 ≤ cur) ∨
    p.2 = peerBandwidthLimitDynamic ∧ (limiterOf before).lastWasHard = true ∨
    windowInEffect before = p.1

/-- After these messages, the limit leaves the window alone. -/
def PassesOver (before : List Message) (p : UInt32 × UInt8) : Prop :=
  (p.2 = peerBandwidthLimitHard → windowInEffect before = p.1) ∧
    (p.2 = peerBandwidthLimitSoft →
      windowInEffect before = p.1 ∨ ∃ cur, (limiterOf before).window = some cur ∧ cur ≤ p.1) ∧
    (p.2 = peerBandwidthLimitDynamic → (limiterOf before).lastWasHard = true →
      windowInEffect before = p.1)

/-- After these messages, the limit does what it does to a limiter that has not seen them. -/
def Resumes (before : List Message) (p : UInt32 × UInt8) : Prop :=
  (p.2 = peerBandwidthLimitSoft → ∀ cur, (limiterOf before).window = some cur → p.1 ≤ cur) ∧
    (p.2 = peerBandwidthLimitDynamic → (limiterOf before).lastWasHard = true →
      windowInEffect before = p.1)

/-- Neither hard nor soft. -/
def Idle (p : UInt32 × UInt8) : Prop :=
  p.2 ≠ peerBandwidthLimitHard ∧ p.2 ≠ peerBandwidthLimitSoft

/-- The message gives a session its window: it announces one, or has a hard or soft limit. -/
def Settles (msg : Message) : Prop := windowOf msg ≠ none ∨ ∃ p, limitOf msg = some p ∧ ¬ Idle p

/-- What was negotiated is taken up, what came while the start of a publication was waited for passed
over, and the first limits of the session, up to a hard or soft one, are resumed.  A window that is
announced while the start of a publication is waited for is the one in effect, unless the session is
given one later. -/
structure Followed (negotiated passed served : List Message) : Prop where
  takesUp : ∀ pre msg post p, negotiated = pre ++ msg :: post → limitOf msg = some p → TakesUp pre p
  passesOver : ∀ pre msg post p, passed = pre ++ msg :: post → limitOf msg = some p →
    PassesOver (negotiated ++ pre) p
  announces : ∀ pre msg post w, passed = pre ++ msg :: post → windowOf msg = some w →
    windowInEffect (negotiated ++ pre) = w ∨ ∃ m ∈ served, Settles m
  resumes : ∀ pre msg post p, served = pre ++ msg :: post → limitOf msg = some p →
    (∀ q ∈ bandwidths pre, Idle q) → Resumes (negotiated ++ passed ++ pre) p

open PeerBandwidthLimiter (adopt apply snd_adopt apply_hard apply_soft apply_dynamic apply_reserved)

/-- Taking a limit up is right. -/
lemma TakesUp.window {p : UInt32 × UInt8} (h : TakesUp msgs p) (hp : limitOf msg = some p) :
    windowInEffect (msgs ++ [msg]) = p.1 := by
  rw [windowInEffect_limit hp]
  rw [TakesUp, windowInEffect] at h
  obtain ⟨w, t⟩ := p
  generalize limiterOf msgs = l at h ⊢
  by_cases hhard : t = peerBandwidthLimitHard
  · subst hhard
    simp [snd_adopt]
  -- a soft limit is taken up if it is no larger than the one held
  by_cases hsoft : t = peerBandwidthLimitSoft
  · subst hsoft
    have hle : ∀ cur, l.window = some cur → w ≤ cur := by
      intro cur hcur
      rcases h with h | ⟨-, h⟩ | ⟨h, -⟩ | h
      · exact absurd h (by decide : peerBandwidthLimitSoft ≠ peerBandwidthLimitHard)
      · exact h cur hcur
      · exact absurd h (by decide : peerBandwidthLimitSoft ≠ peerBandwidthLimitDynamic)
      · rw [hcur] at h
        exact UInt32.le_of_eq h.symm
    cases hcur : l.window with
    | none => simp [snd_adopt, hcur]
    | some cur => simp [snd_adopt, hcur, (min_window (hle cur hcur)).2]
  by_cases hdynamic : t = peerBandwidthLimitDynamic
  · subst hdynamic
    rcases h with h | ⟨h, -⟩ | ⟨-, h⟩ | h
    · exact absurd h (by decide : peerBandwidthLimitDynamic ≠ peerBandwidthLimitHard)
    · exact absurd h (by decide : peerBandwidthLimitDynamic ≠ peerBandwidthLimitSoft)
    · simp [snd_adopt, h]
    · by_cases hlast : l.lastWasHard = true
      · simp [snd_adopt, hlast]
      · simpa [hlast] using h
  · rw [apply_reserved _ _ hhard hsoft hdynamic]
    simpa [hhard, hsoft, hdynamic] using h

/-- Passing a limit over is right. -/
lemma PassesOver.window {p : UInt32 × UInt8} (h : PassesOver msgs p) (hp : limitOf msg = some p) :
    windowInEffect (msgs ++ [msg]) = windowInEffect msgs := by
  rw [windowInEffect_limit hp]
  rw [PassesOver, windowInEffect] at h
  rw [windowInEffect]
  obtain ⟨w, t⟩ := p
  obtain ⟨hhard, hsoft, hdynamic⟩ := h
  generalize limiterOf msgs = l at hhard hsoft hdynamic ⊢
  by_cases ht : t = peerBandwidthLimitHard
  · subst ht
    simpa [snd_adopt] using (hhard rfl).symm
  by_cases ht' : t = peerBandwidthLimitSoft
  · subst ht'
    rcases hsoft rfl with h | ⟨cur, hcur, hle⟩
    · cases hcur : l.window with
      | none => simpa [snd_adopt, hcur] using h.symm
      | some cur =>
          rw [hcur] at h
          obtain rfl : cur = w := h
          simp [snd_adopt, hcur, (min_window (UInt32.le_refl cur)).1]
    · simp [snd_adopt, hcur, (min_window hle).1]
  by_cases ht'' : t = peerBandwidthLimitDynamic
  · subst ht''
    by_cases hlast : l.lastWasHard = true
    · simpa [snd_adopt, hlast] using (hdynamic rfl hlast).symm
    · simp [hlast]
  · rw [apply_reserved _ _ ht ht' ht'']

/-! ### The phases together -/

/-- What a negotiation makes of the window. -/
lemma window_negotiated (huninterrupted : Uninterrupted msgs)
    (h : ∀ pre msg post p, msgs = pre ++ msg :: post → limitOf msg = some p → TakesUp pre p) :
    (msgs.foldl Limits.negotiate .initial).window = windowInEffect msgs := by
  induction msgs using List.reverseRecOn with
  | nil => rfl
  | append_singleton msgs msg ih =>
      have hbefore := ih huninterrupted.left fun pre msg' post p hmsgs =>
        h pre msg' (post ++ [msg]) p (by rw [hmsgs, List.append_assoc, List.cons_append])
      rw [List.foldl_append, List.foldl_cons, List.foldl_nil, Limits.negotiate]
      cases hw : windowOf msg with
      | some w => exact (windowInEffect_window huninterrupted hw).1.symm
      | none =>
          cases hp : limitOf msg with
          | some p => exact ((h msgs msg [] p rfl hp).window hp).symm
          | none =>
              rw [windowInEffect_other hw hp]
              exact hbefore

/-- While the start of a publication is waited for, the window in effect stays the same. -/
lemma window_passed {negotiated passed : List Message}
    (huninterrupted : Uninterrupted (negotiated ++ passed))
    (hwindow : ∀ pre msg post w, passed = pre ++ msg :: post → windowOf msg = some w →
      windowInEffect (negotiated ++ pre) = w)
    (h : ∀ pre msg post p, passed = pre ++ msg :: post → limitOf msg = some p →
      PassesOver (negotiated ++ pre) p) :
    windowInEffect (negotiated ++ passed) = windowInEffect negotiated := by
  induction passed using List.reverseRecOn with
  | nil => rw [List.append_nil]
  | append_singleton passed msg ih =>
      rw [← List.append_assoc] at huninterrupted ⊢
      -- what stood before a message stands before it still
      have hsnoc : ∀ pre msg' post, passed = pre ++ msg' :: post →
          passed ++ [msg] = pre ++ msg' :: (post ++ [msg]) := by
        intro pre msg' post hmsgs
        rw [hmsgs, List.append_assoc, List.cons_append]
      have hbefore := ih huninterrupted.left
        (fun pre msg' post w hmsgs => hwindow pre msg' _ w (hsnoc pre msg' post hmsgs))
        fun pre msg' post p hmsgs => h pre msg' _ p (hsnoc pre msg' post hmsgs)
      rw [← hbefore]
      cases hw : windowOf msg with
      | some w =>
          rw [(windowInEffect_window huninterrupted hw).1]
          exact (hwindow passed msg [] w rfl hw).symm
      | none =>
          cases hp : limitOf msg with
          | some p => exact (h passed msg [] p rfl hp).window hp
          | none => exact windowInEffect_other hw hp

/-- What a session has of the limits: the window in effect, if it had it from the start or was given
one since; and a limiter that is the one that was fed everything, or a new one that has not seen a hard
or soft limit. -/
structure Resumed (before served : List Message) (kept : Prop) (l : Limits × PeerBandwidthLimiter) :
    Prop where
  window : (kept ∨ ∃ m ∈ served, Settles m) → l.1.window = windowInEffect (before ++ served)
  limiter : (l.2 = limiterOf (before ++ served) ∧ ∃ m ∈ served, Settles m) ∨
    l.2 = .new ∧ ∀ q ∈ bandwidths served, Idle q

/-- A message that gives no window is not what gave one. -/
lemma settles_snoc {served : List Message} {kept : Prop} (hmsg : ¬ Settles msg)
    (h : kept ∨ ∃ m ∈ served ++ [msg], Settles m) : kept ∨ ∃ m ∈ served, Settles m := by
  refine h.imp_right fun ⟨m, hm, hsettles⟩ => ?_
  rcases List.mem_append.mp hm with hm | hm
  · exact ⟨m, hm, hsettles⟩
  · rw [List.mem_singleton.mp hm] at hsettles
    exact absurd hsettles hmsg

lemma bandwidths_snoc (msgs : List Message) (msg : Message) :
    bandwidths (msgs ++ [msg]) = bandwidths msgs ++ (limitOf msg).toList := by
  rw [bandwidths, List.filterMap_append, bandwidths]
  cases h : limitOf msg with
  | none => rw [List.filterMap_cons_none h]; rfl
  | some p => rw [List.filterMap_cons_some h]; rfl

/-- A limit that is resumed, in a new limiter and in one that has seen others.  If it is hard or soft,
it does not matter which window was held. -/
lemma resumed_apply {l : PeerBandwidthLimiter} {fresh : PeerBandwidthLimiter} {p : UInt32 × UInt8}
    {window d : UInt32} (hwindow : Idle p → window = l.window.getD d) (hfresh : fresh = .new)
    (hsoft : p.2 = peerBandwidthLimitSoft → ∀ cur, l.window = some cur → p.1 ≤ cur)
    (hdynamic : p.2 = peerBandwidthLimitDynamic → l.lastWasHard = true → l.window.getD d = p.1) :
    (fresh.apply p.1 p.2).1.getD window = (l.apply p.1 p.2).2.window.getD d ∧
      ((fresh.apply p.1 p.2).2 = (l.apply p.1 p.2).2 ∧ ¬ Idle p ∨
        (fresh.apply p.1 p.2).2 = .new ∧ Idle p) := by
  obtain ⟨w, t⟩ := p
  subst hfresh
  have hadopt : ∀ last, adopt w ⟨none, last⟩ = (some w, ⟨some w, last⟩) := fun last => if_neg nofun
  by_cases ht : t = peerBandwidthLimitHard
  · subst ht
    have hnew : apply w peerBandwidthLimitHard .new = (some w, ⟨some w, true⟩) := hadopt true
    rw [hnew, apply_hard, snd_adopt]
    exact ⟨rfl, .inl ⟨rfl, fun hidle => hidle.1 rfl⟩⟩
  by_cases ht' : t = peerBandwidthLimitSoft
  · subst ht'
    have hnew : apply w peerBandwidthLimitSoft .new = (some w, ⟨some w, false⟩) := hadopt false
    have hsame : l.window.elim w (fun cur => min cur w) = w := by
      cases hcur : l.window with
      | none => rfl
      | some cur => exact (min_window (hsoft rfl cur hcur)).2
    rw [hnew, apply_soft, hsame, snd_adopt]
    exact ⟨rfl, .inl ⟨rfl, fun hidle => hidle.2 rfl⟩⟩
  -- the other limits leave a new limiter as it is
  have hidle : Idle (w, t) := ⟨ht, ht'⟩
  obtain rfl := hwindow hidle
  by_cases ht'' : t = peerBandwidthLimitDynamic
  · subst ht''
    have hnew : apply w peerBandwidthLimitDynamic .new = (none, .new) := rfl
    refine ⟨?_, .inr ⟨congrArg Prod.snd hnew, hidle⟩⟩
    rw [hnew, apply_dynamic]
    split_ifs with hlast
    · rw [snd_adopt]
      exact hdynamic rfl hlast
    · rfl
  · rw [apply_reserved _ _ ht ht' ht'', apply_reserved _ _ ht ht' ht'']
    exact ⟨rfl, .inr ⟨rfl, hidle⟩⟩

/-- One message of a session. -/
lemma Resumed.step {before served : List Message} {kept : Prop} {l : Limits × PeerBandwidthLimiter}
    (hl : Resumed before served kept l)
    (huninterrupted : Uninterrupted (before ++ served ++ [msg]))
    (h : ∀ p, limitOf msg = some p → (∀ q ∈ bandwidths served, Idle q) →
      Resumes (before ++ served) p) :
    Resumed before (served ++ [msg]) kept (Limits.serve l msg) := by
  obtain ⟨hwindow, hlimiter⟩ := hl
  have hmore : (∃ m ∈ served, Settles m) → ∃ m ∈ served ++ [msg], Settles m :=
    fun ⟨m, hm, hsettles⟩ => ⟨m, List.mem_append_left _ hm, hsettles⟩
  rw [Limits.serve]
  cases hp : limitOf msg with
  | none =>
      -- the limiter stays as it is
      have hlimiter' : (l.2 = limiterOf (before ++ (served ++ [msg])) ∧
            ∃ m ∈ served ++ [msg], Settles m) ∨
          l.2 = .new ∧ ∀ q ∈ bandwidths (served ++ [msg]), Idle q := by
        rw [← List.append_assoc, limiterOf_snoc, hp, bandwidths_snoc, hp, Option.elim_none,
          Option.toList_none, List.append_nil]
        exact hlimiter.imp_left (And.imp_right hmore)
      cases hw : windowOf msg with
      | some w =>
          -- an announcement sets the window itself
          obtain ⟨heffect, -⟩ := windowInEffect_window huninterrupted hw
          rw [List.append_assoc] at heffect
          exact ⟨fun _ => heffect.symm, hlimiter'⟩
      | none =>
          have hmsg : ¬ Settles msg := by
            rintro (hannounces | ⟨p, hlimit, -⟩)
            · exact hannounces hw
            · rw [hp] at hlimit
              cases hlimit
          refine ⟨fun hgiven => ?_, hlimiter'⟩
          rw [← List.append_assoc, windowInEffect_other hw hp]
          exact hwindow (settles_snoc hmsg hgiven)
  | some p =>
      rw [windowOf_of_limitOf hp]
      have heffect : windowInEffect (before ++ served ++ [msg]) = _ := windowInEffect_limit hp
      have hlimiterOf := limiterOf_snoc (before ++ served) msg
      rw [hp, Option.elim_some] at hlimiterOf
      rw [List.append_assoc] at heffect hlimiterOf
      -- either the limiter has caught up, or it is as it was at the start
      rcases hlimiter with ⟨hsame, hgiven⟩ | ⟨hnew, hidle⟩
      · refine ⟨fun _ => ?_, .inl ⟨?_, hmore hgiven⟩⟩
        · have hheld := hwindow (.inr hgiven)
          rw [windowInEffect] at hheld
          rw [heffect, ← PeerBandwidthLimiter.apply_getD, ← hheld, hsame]
          rfl
        · rw [hlimiterOf, ← hsame]
          rfl
      · obtain ⟨hsoft, hdynamic⟩ := h p hp hidle
        rw [windowInEffect] at hdynamic
        have hidle' : Idle p → ∀ q ∈ bandwidths (served ++ [msg]), Idle q := by
          intro hpIdle q hq
          rw [bandwidths_snoc, hp] at hq
          rcases List.mem_append.mp hq with hq | hq
          · exact hidle q hq
          · rw [Option.mem_toList] at hq
            cases hq
            exact hpIdle
        -- a limit that is not idle settles the window from here on
        have hgives : ¬ Idle p → ∃ m ∈ served ++ [msg], Settles m :=
          fun hp' => ⟨msg, List.mem_append_right _ List.mem_cons_self, .inr ⟨p, hp, hp'⟩⟩
        refine ⟨fun hgiven => ?_, ?_⟩
        · have hheld : Idle p → l.1.window = (limiterOf (before ++ served)).window.getD
              (announcedWindow (before ++ served)) := by
            intro hpIdle
            refine hwindow (settles_snoc ?_ hgiven)
            rintro (hannounces | ⟨q, hlimit, hq⟩)
            · exact hannounces (windowOf_of_limitOf hp)
            · rw [hp] at hlimit
              cases hlimit
              exact hq hpIdle
          rw [heffect]
          exact (resumed_apply hheld hnew hsoft hdynamic).1
        · rw [hlimiterOf]
          exact (resumed_apply (fun _ => rfl) hnew hsoft hdynamic).2.imp (And.imp_right hgives)
            (And.imp_right hidle')

/-- The messages of a session. -/
lemma Resumed.run {before served : List Message} {kept : Prop} {l : Limits × PeerBandwidthLimiter}
    (hl : Resumed before [] kept l) (huninterrupted : Uninterrupted (before ++ served))
    (h : ∀ pre msg post p, served = pre ++ msg :: post → limitOf msg = some p →
      (∀ q ∈ bandwidths pre, Idle q) → Resumes (before ++ pre) p) :
    Resumed before served kept (served.foldl Limits.serve l) := by
  induction served using List.reverseRecOn with
  | nil => exact hl
  | append_singleton served msg ih =>
      rw [← List.append_assoc] at huninterrupted
      have hbefore := ih huninterrupted.left fun pre msg' post p hmsgs =>
        h pre msg' (post ++ [msg]) p (by rw [hmsgs, List.append_assoc, List.cons_append])
      rw [List.foldl_append]
      exact hbefore.step huninterrupted fun p hp => h served msg [] p rfl hp

/-- **The phases together** hold the window in effect. -/
theorem Followed.window {negotiated passed served : List Message}
    (h : Followed negotiated passed served)
    (huninterrupted : Uninterrupted (negotiated ++ passed ++ served)) :
    (served.foldl Limits.serve
        (passed.foldl Limits.ignore (negotiated.foldl Limits.negotiate .initial), .new)).1.window
      = windowInEffect (negotiated ++ passed ++ served) := by
  have hignore : ∀ l : Limits, passed.foldl Limits.ignore l = l := fun _ =>
    List.foldl_fixed passed
  have hstart : Resumed (negotiated ++ passed) []
      (windowInEffect (negotiated ++ passed) = windowInEffect negotiated)
      (negotiated.foldl Limits.negotiate .initial, .new) := by
    refine ⟨fun hkept => ?_, .inr ⟨rfl, fun _ hq => absurd hq List.not_mem_nil⟩⟩
    rw [List.append_nil, hkept.resolve_right fun ⟨_, hm, _⟩ => absurd hm List.not_mem_nil]
    exact window_negotiated huninterrupted.left.left h.takesUp
  rw [hignore]
  refine (hstart.run huninterrupted h.resumes).window ?_
  by_cases hgiven : ∃ m ∈ served, Settles m
  · exact .inr hgiven
  · exact .inl (window_passed huninterrupted.left (fun pre msg post w hmsgs hw =>
      (h.announces pre msg post w hmsgs hw).resolve_right hgiven) h.passesOver)

/-! ### Connections -/

open Relation (ReflTransGen)
open Link (opened Heeds Rests)

/-- As long as the limits are such, a connection that is being set up has the window in effect. -/
def Link.HoldsWindow (l : Link) : Prop :=
  Followed l.heard [] [] → Uninterrupted l.heard → l.reader.windowAckSize = windowInEffect l.heard

/-- So has a session, after any number of rounds. -/
def Dispatcher.HoldsWindow {τ α : Type} (d : Dispatcher τ α) (negotiated passed : List Message)
    (s : Session τ) : Prop :=
  ∀ n, Followed negotiated passed (d.served n s) →
    Uninterrupted (negotiated ++ passed ++ d.served n s) →
    (d.rounds n s).reader.windowAckSize = windowInEffect (negotiated ++ passed ++ d.served n s)

lemma Link.holdsWindow_of_heeds {stream : List ReadEvent} {l : Link}
    (h : Heeds Limits.negotiate (opened stream) l) : l.HoldsWindow := by
  intro hfollowed huninterrupted
  have hwindow : l.reader.limits.window = windowInEffect l.heard := by
    rw [h.limits_opened]
    exact window_negotiated huninterrupted hfollowed.takesUp
  exact hwindow

/-- The session a link becomes starts with the limits that were negotiated, and a new limiter. -/
lemma Dispatcher.Heeding.holdsWindow {τ α : Type} {d : Dispatcher τ α} (hd : d.Heeding)
    {stream : List ReadEvent} {l₀ l : Link} {passed : List Message}
    (h₀ : Heeds Limits.negotiate (opened stream) l₀) (h : Heeds Limits.ignore l₀ l)
    (hpassed : l.heard = l₀.heard ++ passed) (own : τ) :
    d.HoldsWindow l₀.heard passed (l.session own) := by
  intro n hfollowed huninterrupted
  obtain ⟨msgs, hheard, hlimits⟩ := h.limits
  obtain rfl : passed = msgs := List.append_cancel_left (hpassed.symm.trans hheard)
  have hrounds := hd.limits_rounds n (l.session own)
  have hstart : (l.session own).limits
      = (passed.foldl Limits.ignore (l₀.heard.foldl Limits.negotiate .initial), .new) := by
    rw [← h₀.limits_opened, ← hlimits]
    rfl
  rw [hstart] at hrounds
  have hwindow := hfollowed.window huninterrupted
  rw [← hrounds] at hwindow
  exact hwindow

/-- The operation ends, if it succeeds, in a session that the link becomes. -/
def Link.Becomes {α τ : Type} (x : LinkM α) (session : α → Session τ) : Prop :=
  ∀ l l' a, x.run l = (.ok a, l') → ∃ own, session a = l'.session own

namespace Link.Becomes

variable {α β τ : Type} {session : β → Session τ}

lemma bind {x : LinkM α} {f : α → LinkM β} (hf : ∀ a, Becomes (f a) session) :
    Becomes (x >>= f) session := by
  intro l l' b h
  obtain ⟨a, l₁, -, h⟩ := Eff.run_bind_eq_ok.mp h
  exact hf a l₁ l' b h

lemma ite {p : Prop} [Decidable p] {x y : LinkM β} (hx : Becomes x session) (hy : Becomes y session) :
    Becomes (if p then x else y) session := by
  split_ifs
  · exact hx
  · exact hy

lemma gets (own : τ) : Becomes (Eff.gets (Link.session own)) id := by
  intro l l' s h
  cases h
  exact ⟨own, rfl⟩

end Link.Becomes

lemma PublishRequest.becomes_accept (req : PublishRequest) : Link.Becomes req.accept id :=
  .bind fun _ => .bind fun _ => .gets _

lemma PlayRequest.becomes_acceptMode (req : PlayRequest) (recorded : Bool) :
    Link.Becomes (req.acceptMode recorded) id := by
  have hstart : ∀ u : PUnit, Link.Becomes (do
      Link.write csidCommand (buildOnStatus req.streamId "status" statusPlayStart
        ("Started playing " ++ req.streamName))
      Eff.gets (Link.session (⟨req.app, req.streamName, req.streamId⟩ : PlayState))) id :=
    fun _ => .bind fun _ => .gets _
  exact .ite (.bind fun _ => .bind fun _ => .ite (.bind hstart) (hstart ⟨⟩))
    (.bind fun _ => .ite (.bind hstart) (hstart ⟨⟩))

lemma RtmpPlayer.becomes_connectWithOptions (u : RtmpUrl) (opts : PlayOptions) :
    Link.Becomes (connectWithOptions u opts) Prod.fst := by
  refine .bind fun _ => .bind fun _ => .bind fun _ => .bind fun _ => .bind fun _ => .bind fun _ =>
    .bind fun _ => .bind fun _ => ?_
  intro l l' p h
  cases h
  exact ⟨_, rfl⟩

/-- **The window in effect**.  On the server and on both clients, as long as each phase has only limits
that it gets right, the acknowledgement window after any number of messages is the one a single limiter
holds that was fed all their limits. -/
theorem bandwidth_window (stream : List ReadEvent) :
    (∀ caps req l s l',
      (driveUntilRequest caps).run (opened stream) = (.ok (.publish req), l) →
      req.accept.run l = (.ok s, l') → RtmpSession.dispatcher.HoldsWindow l'.heard [] s) ∧
    (∀ caps req recorded l s l',
      (driveUntilRequest caps).run (opened stream) = (.ok (.play req), l) →
      (req.acceptMode recorded).run l = (.ok s, l') →
      PlaySession.dispatcher.HoldsWindow l'.heard [] s) ∧
    (∀ u publishType caps ids l client serverCaps l' passed,
      (RtmpClient.requestPublish u publishType caps).run (opened stream) = (.ok ids, l) →
      (RtmpClient.connectParsed u publishType caps).run (opened stream)
        = (.ok (client, serverCaps), l') →
      l'.heard = l.heard ++ passed → RtmpClient.dispatcher.HoldsWindow l.heard passed client) ∧
    (∀ u opts player serverCaps l,
      (RtmpPlayer.connectWithOptions u opts).run (opened stream) = (.ok (player, serverCaps), l) →
      RtmpPlayer.dispatcher.HoldsWindow l.heard [] player) ∧
    (∀ caps, ((driveUntilRequest caps).run (opened stream)).2.HoldsWindow) ∧
    (∀ u publishType caps,
      ((RtmpClient.requestPublish u publishType caps).run (opened stream)).2.HoldsWindow) ∧
    ∀ u opts, ((RtmpPlayer.connectWithOptions u opts).run (opened stream)).2.HoldsWindow := by
  have hdrive : ∀ {caps out l}, (driveUntilRequest caps).run (opened stream) = (out, l) →
      Heeds Limits.negotiate (opened stream) l := fun h => (heeds_driveUntilRequest _).of_run h
  refine ⟨?_, ?_, ?_, ?_, fun caps => ?_, fun u publishType caps => ?_, fun u opts => ?_⟩
  · intro caps req l s l' hrequest haccept
    obtain ⟨own, rfl⟩ := req.becomes_accept l l' s haccept
    have hheeds : Heeds Limits.negotiate l l' := (Link.heeds_of_rests req.rests_accept).of_run haccept
    exact RtmpSession.heeding.holdsWindow (trans_of _ (hdrive hrequest) hheeds) .refl
      (List.append_nil _).symm own
  · intro caps req recorded l s l' hrequest haccept
    obtain ⟨own, rfl⟩ := req.becomes_acceptMode recorded l l' s haccept
    have hheeds : Heeds Limits.negotiate l l' :=
      (Link.heeds_of_rests (req.rests_acceptMode recorded)).of_run haccept
    exact PlaySession.heeding.holdsWindow (trans_of _ (hdrive hrequest) hheeds) .refl
      (List.append_nil _).symm own
  · intro u publishType caps ids l client serverCaps l' passed hrequest hconnect hpassed
    -- the wait for the status passes over what it reads
    rw [RtmpClient.connectParsed, Eff.run_bind_ok hrequest] at hconnect
    obtain ⟨_, l₁, hwait, hconnect⟩ := Eff.run_bind_eq_ok.mp hconnect
    cases hconnect
    exact RtmpClient.heeding.holdsWindow
      ((RtmpClient.heeds_requestPublish u publishType caps).of_run hrequest)
      (heeds_waitForPublishStart.of_run hwait) hpassed _
  · intro u opts player serverCaps l hconnect
    obtain ⟨own, rfl⟩ := RtmpPlayer.becomes_connectWithOptions u opts _ l _ hconnect
    exact RtmpPlayer.heeding.holdsWindow
      ((RtmpPlayer.heeds_connectWithOptions u opts).of_run hconnect) .refl
      (List.append_nil _).symm own
  · exact Link.holdsWindow_of_heeds (heeds_driveUntilRequest caps _)
  · exact Link.holdsWindow_of_heeds (RtmpClient.heeds_requestPublish u publishType caps _)
  · exact Link.holdsWindow_of_heeds (RtmpPlayer.heeds_connectWithOptions u opts _)

/-! ### Two connections -/

/-- A publisher that limits its peer to 100 bytes before it connects, and once more when it
publishes. -/
def limiting (limit : Message) : List ReadEvent :=
  ReadEvent.bytes (sent [(csidProtocolControl, buildSetPeerBandwidth 100 peerBandwidthLimitHard),
    (csidCommand, buildConnectWithCaps (.ofNat 1) "live" "rtmp://host/live" flashVer .default),
    (csidCommand, buildPublish (.ofNat 5) 1 "cam" "live"), (csidProtocolControl, limit)])

/-- The messages of such a publisher before it publishes. -/
def limitingHeard : List Message :=
  [buildSetPeerBandwidth 100 peerBandwidthLimitHard,
    buildConnectWithCaps (.ofNat 1) "live" "rtmp://host/live" flashVer .default,
    buildPublish (.ofNat 5) 1 "cam" "live"]

/-- Setting up a publisher and serving one message. -/
lemma accepted (stream : List ReadEvent) (heard : List Message) (limit : Message)
    (hrun : ((driveUntilRequest .default >>= fun request =>
      match request with
      | .publish req => req.accept
      | .play _ => Eff.fail .timeout).run (opened stream)).1.toOption.isSome = true)
    (hheard : ((driveUntilRequest .default).run (opened stream)).2.heard = heard)
    (hread : (ChunkReader.readMessage.run
      ((driveUntilRequest .default).run (opened stream)).2.reader).1.toOption = some limit) :
    ∃ req l s l', (driveUntilRequest .default).run (opened stream) = (.ok (.publish req), l) ∧
      req.accept.run l = (.ok s, l') ∧ l'.heard = heard ∧
      RtmpSession.dispatcher.served 1 s = [limit] := by
  obtain ⟨s, hs⟩ := Option.isSome_iff_exists.mp hrun
  rcases hboth : (driveUntilRequest .default >>= fun request =>
      match request with
      | .publish req => req.accept
      | .play _ => Eff.fail .timeout).run (opened stream) with ⟨e | s', l'⟩
  · rw [hboth] at hs
    cases hs
  obtain ⟨request, l, hdrive, haccept⟩ := Eff.run_bind_eq_ok.mp hboth
  cases request with
  | play req => cases haccept
  | publish req =>
      obtain ⟨hreader, hsame⟩ := req.rests_accept.of_run haccept
      obtain ⟨own, rfl⟩ := req.becomes_accept l l' s' haccept
      rw [hdrive] at hheard hread
      refine ⟨req, l, _, l', hdrive, haccept, hsame.trans hheard, ?_⟩
      have hopen : (l'.session own).arriving = some limit := by
        rw [Session.arriving, if_neg (by simp [Link.session, Session.opened])]
        rw [← hreader] at hread
        exact hread
      have hserving : (l'.session own).serving = some (limit, []) := by
        rw [Session.serving, if_neg (by simp [Link.session, Session.opened])]
        change ((l'.session own).arriving.map fun msg => (msg, [])) = _
        rw [hopen]
        rfl
      rw [Dispatcher.served, Dispatcher.served, Dispatcher.rounds]
      change ((l'.session own).serving.map Prod.fst).toList = _
      rw [hserving]
      rfl

/-- Before it publishes it announces no window, and its limits are hard. -/
lemma limitingHeard_hard : ∀ msg ∈ limitingHeard, windowOf msg = none ∧
    (limitOf msg).all (fun p => p.2 = peerBandwidthLimitHard) = true := by
  decide +kernel

/-- Such a publisher announces no window. -/
lemma uninterrupted_limiting (limit : UInt32) (limitType : UInt8) :
    Uninterrupted (limitingHeard ++ [] ++ [buildSetPeerBandwidth limit limitType]) := by
  intro pre msg post hmsgs hwindow
  have hmem : msg ∈ limitingHeard ++ [] ++ [buildSetPeerBandwidth limit limitType] := by
    rw [hmsgs]
    exact List.mem_append_right _ List.mem_cons_self
  rw [List.append_nil] at hmem
  rcases List.mem_append.mp hmem with hmem | hmem
  · exact absurd (limitingHeard_hard msg hmem).1 hwindow
  · rw [List.mem_singleton.mp hmem] at hwindow
    exact absurd rfl hwindow

/-- A soft limit that is tighter is resumed. -/
theorem bandwidth_window_soft :
    ∃ req l s l', (driveUntilRequest .default).run
        (opened (limiting (buildSetPeerBandwidth 50 peerBandwidthLimitSoft)))
        = (.ok (.publish req), l) ∧
      req.accept.run l = (.ok s, l') ∧
      (RtmpSession.dispatcher.rounds 1 s).reader.windowAckSize = 50 := by
  obtain ⟨req, l, s, l', hdrive, haccept, hheard, hserved⟩ :=
    accepted (limiting (buildSetPeerBandwidth 50 peerBandwidthLimitSoft)) limitingHeard
      (buildSetPeerBandwidth 50 peerBandwidthLimitSoft)
      (by decide +kernel) (by decide +kernel) (by decide +kernel)
  refine ⟨req, l, s, l', hdrive, haccept, ?_⟩
  have hwindow := (bandwidth_window _).1 _ _ _ _ _ hdrive haccept 1
  rw [hheard, hserved] at hwindow
  rw [hwindow ?_ (uninterrupted_limiting 50 peerBandwidthLimitSoft)]
  · decide +kernel
  refine ⟨fun pre msg post p hmsgs hp => .inl ?_, fun pre msg post p hmsgs => ?_,
    fun pre msg post w hmsgs => ?_, fun pre msg post p hmsgs hp _ => ?_⟩
  · have hhard := (limitingHeard_hard msg (hmsgs ▸ List.mem_append_right _ List.mem_cons_self)).2
    rw [hp] at hhard
    simpa using hhard
  · simp at hmsgs
  · simp at hmsgs
  · obtain ⟨rfl, hmsg⟩ := List.append_eq_singleton_iff.mp hmsgs.symm |>.resolve_right (by simp)
    cases hmsg
    obtain rfl : p = (50, peerBandwidthLimitSoft) := by
      have hlimit : limitOf (buildSetPeerBandwidth 50 peerBandwidthLimitSoft)
          = some (50, peerBandwidthLimitSoft) := by
        decide +kernel
      exact Option.some.inj (hp.symm.trans hlimit)
    refine ⟨fun _ cur hcur => ?_, fun hdynamic => absurd hdynamic (by decide)⟩
    have hheld : (limiterOf (limitingHeard ++ [] ++ [])).window = some 100 := by
      decide +kernel
    obtain rfl : 100 = cur := Option.some.inj (hheld.symm.trans hcur)
    decide

/-- **The window that is not in effect**: after a hard limit of 100 in the negotiation and a dynamic one
of 200 in the session, the session holds 100, and a single limiter 200. -/
theorem not_windowInEffect_dynamic :
    ∃ req l s l', (driveUntilRequest .default).run
        (opened (limiting (buildSetPeerBandwidth 200 peerBandwidthLimitDynamic)))
          = (.ok (.publish req), l) ∧
      req.accept.run l = (.ok s, l') ∧
      Uninterrupted (l'.heard ++ RtmpSession.dispatcher.served 1 s) ∧
      (RtmpSession.dispatcher.rounds 1 s).reader.windowAckSize = 100 ∧
      windowInEffect (l'.heard ++ RtmpSession.dispatcher.served 1 s) = 200 := by
  obtain ⟨req, l, s, l', hdrive, haccept, hheard, hserved⟩ :=
    accepted (limiting (buildSetPeerBandwidth 200 peerBandwidthLimitDynamic)) limitingHeard
      (buildSetPeerBandwidth 200 peerBandwidthLimitDynamic)
      (by decide +kernel) (by decide +kernel) (by decide +kernel)
  refine ⟨req, l, s, l', hdrive, haccept, ?_, ?_, ?_⟩
  · have huninterrupted := uninterrupted_limiting 200 peerBandwidthLimitDynamic
    rwa [List.append_nil, ← hheard, ← hserved] at huninterrupted
  · obtain ⟨own, rfl⟩ := req.becomes_accept l l' s haccept
    have hrounds := RtmpSession.heeding.limits_rounds 1 (l'.session own)
    rw [hserved] at hrounds
    have hreader := (req.rests_accept.of_run haccept).1
    have hwindow : l'.reader.windowAckSize = 100 := by
      have hread : ((driveUntilRequest .default).run
          (opened (limiting
            (buildSetPeerBandwidth 200 peerBandwidthLimitDynamic)))).2.reader.windowAckSize
            = 100 := by
        decide +kernel
      rw [hdrive] at hread
      rw [hreader]
      exact hread
    have hsame : (Limits.serve (l'.session own).limits
        (buildSetPeerBandwidth 200 peerBandwidthLimitDynamic)).1.window = l'.reader.windowAckSize := rfl
    exact (congrArg (fun limits => limits.1.window) hrounds).trans (hsame.trans hwindow)
  · rw [hheard, hserved]
    decide +kernel

end Rtmp
