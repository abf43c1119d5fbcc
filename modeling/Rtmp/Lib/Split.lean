import Mathlib.Tactic

/-!
Cutting a list at what it contains, as the searches of a text in its characters do.

* `splitOnce`, `rsplitOnce`: at the first place, and at the last, where an element stands;
* `splitAtInfix`: at the first place where a list stands;
* `splitOnce_eq_some_iff`, `rsplitOnce_eq_some_iff`: the cuts, by what is missing on one side;
* `cut_unique`: there is only one first place.
-/

namespace Split

variable {α : Type} [DecidableEq α]

/-- What is before the first `c`, and what is behind it. -/
def splitOnce (c : α) : List α → Option (List α × List α)
  | [] => none
  | d :: l => if d = c then some ([], l) else (splitOnce c l).map fun p => (d :: p.1, p.2)

/-- What is before the last `c`, and what is behind it. -/
def rsplitOnce (c : α) (l : List α) : Option (List α × List α) :=
  (splitOnce c l.reverse).map fun p => (p.2.reverse, p.1.reverse)

/-- What is before the first `sep`, and what is behind it. -/
def splitAtInfix (sep : List α) : List α → Option (List α × List α)
  | [] => if sep = [] then some ([], []) else none
  | d :: l =>
      if sep <+: d :: l then some ([], (d :: l).drop sep.length)
      else (splitAtInfix sep l).map fun p => (d :: p.1, p.2)

variable {c : α} {l a b a' b' : List α}

lemma splitOnce_append (ha : c ∉ a) : splitOnce c (a ++ c :: b) = some (a, b) := by
  induction a with
  | nil => rw [List.nil_append, splitOnce, if_pos rfl]
  | cons d a ih =>
      rw [List.mem_cons, not_or] at ha
      rw [List.cons_append, splitOnce, if_neg (Ne.symm ha.1), ih ha.2]
      rfl

lemma splitOnce_eq_some_iff : splitOnce c l = some (a, b) ↔ l = a ++ c :: b ∧ c ∉ a := by
  refine ⟨fun h => ?_, fun ⟨hl, ha⟩ => hl ▸ splitOnce_append ha⟩
  induction l generalizing a with
  | nil => cases h
  | cons d l ih =>
      rw [splitOnce] at h
      split_ifs at h with hd
      · cases h
        exact ⟨by rw [hd, List.nil_append], List.not_mem_nil⟩
      · obtain ⟨⟨a', b'⟩, hsplit, hp⟩ := Option.map_eq_some_iff.mp h
        cases hp
        obtain ⟨rfl, ha⟩ := ih hsplit
        refine ⟨rfl, ?_⟩
        rw [List.mem_cons, not_or]
        exact ⟨Ne.symm hd, ha⟩

lemma splitOnce_eq_none_iff : splitOnce c l = none ↔ c ∉ l := by
  induction l with
  | nil => exact iff_of_true rfl List.not_mem_nil
  | cons d l ih =>
      rw [splitOnce, List.mem_cons, not_or]
      split_ifs with hd
      · exact iff_of_false nofun fun h => h.1 hd.symm
      · rw [Option.map_eq_none_iff, ih]
        exact ⟨fun h => ⟨Ne.symm hd, h⟩, fun h => h.2⟩

lemma rsplitOnce_eq_some_iff : rsplitOnce c l = some (a, b) ↔ l = a ++ c :: b ∧ c ∉ b := by
  rw [rsplitOnce, Option.map_eq_some_iff]
  constructor
  · rintro ⟨⟨b', a'⟩, hsplit, hp⟩
    cases hp
    obtain ⟨hl, hb⟩ := splitOnce_eq_some_iff.mp hsplit
    refine ⟨?_, by rwa [List.mem_reverse]⟩
    rw [← List.reverse_reverse l, hl]
    simp
  · rintro ⟨rfl, hb⟩
    refine ⟨(b.reverse, a.reverse), splitOnce_eq_some_iff.mpr ⟨by simp, ?_⟩, by simp⟩
    rwa [List.mem_reverse]

lemma rsplitOnce_eq_none_iff : rsplitOnce c l = none ↔ c ∉ l := by
  rw [rsplitOnce, Option.map_eq_none_iff, splitOnce_eq_none_iff, List.mem_reverse]

/-- There is only one first place. -/
lemma cut_unique (h : a ++ c :: b = a' ++ c :: b') (ha : c ∉ a) (ha' : c ∉ a') :
    a = a' ∧ b = b' := by
  have hsplit := splitOnce_append (b := b) ha
  rw [h, splitOnce_append ha', Option.some.injEq, Prod.mk.injEq] at hsplit
  exact ⟨hsplit.1.symm, hsplit.2.symm⟩

end Split
