import Mathlib.Tactic

/-!
Numbers given to things in the order in which they are first seen.

* `Numbering.order`: the different things that were seen, by their first occurrence;
* `Numbering.number`: the place of a thing in that order;
* `order_snoc`: seeing one more thing;
* `number_inj`, `number_mono`: different things have different numbers, and keep them;
* **`find?_numbered`**: looking a thing up in a list of the numbered ones.
-/

namespace Numbering

variable {α : Type} [DecidableEq α] {seen : List α} {a b : α} {i : ℕ}

/-- The different things that were seen, the first seen first. -/
def order (seen : List α) : List α := seen.eraseDups

/-- The number of a thing that was seen, from 0. -/
def number (seen : List α) (a : α) : Option ℕ := (order seen).idxOf? a

@[simp] lemma mem_order : a ∈ order seen ↔ a ∈ seen := List.mem_eraseDups

lemma order_append (seen more : List α) :
    order (seen ++ more) = order seen ++ order (more.removeAll seen) := List.eraseDups_append

/-- One more thing: it is added at the end, unless it was seen. -/
lemma order_snoc (seen : List α) (a : α) :
    order (seen ++ [a]) = if a ∈ seen then order seen else order seen ++ [a] := by
  rw [order_append]
  by_cases h : a ∈ seen
  · rw [if_pos h, show [a].removeAll seen = [] by simp [List.removeAll, h]]
    exact List.append_nil _
  · rw [if_neg h, show [a].removeAll seen = [a] by simp [List.removeAll, h]]
    rfl

lemma nodup_order (seen : List α) : (order seen).Nodup := by
  induction seen using List.reverseRecOn with
  | nil => exact List.nodup_nil
  | append_singleton seen a ih =>
      rw [order_snoc]
      split_ifs with h
      · exact ih
      · exact List.nodup_append.mpr ⟨ih, List.nodup_singleton a, fun b hb c hc => by
          rw [List.mem_singleton.mp hc]
          rintro rfl
          exact h (mem_order.mp hb)⟩

/-- Of finitely many things only so many can be seen. -/
lemma length_order_le {β : Type} [Fintype β] {f : α → β} (seen : List α) (hf : f.Injective) :
    (order seen).length ≤ Fintype.card β := by
  rw [← List.length_map f]
  exact ((nodup_order seen).map hf).length_le_card

lemma number_eq_none : number seen a = none ↔ a ∉ seen := by
  rw [number, List.idxOf?_eq_none_iff, mem_order]

/-- The number is the place in the order. -/
lemma number_eq_some : number seen a = some i ↔ (order seen)[i]? = some a := by
  rw [number, List.idxOf?_eq_some_iff]
  constructor
  · rintro ⟨hi, ha, -⟩
    rw [List.getElem?_eq_getElem hi, ha]
  · intro h
    obtain ⟨hi, ha⟩ := List.getElem?_eq_some_iff.mp h
    refine ⟨hi, ha, fun j hj heq => ?_⟩
    have hsame : j = i := (nodup_order seen).getElem_inj_iff.mp (heq.trans ha.symm)
    omega

lemma number_lt (h : number seen a = some i) : i < (order seen).length :=
  (List.getElem?_eq_some_iff.mp (number_eq_some.mp h)).1

/-- Different things have different numbers. -/
lemma number_inj (ha : number seen a = some i) (hb : number seen b = some i) : a = b := by
  rw [number_eq_some] at ha hb
  exact Option.some.inj (ha.symm.trans hb)

/-- A thing keeps its number, whatever is seen later. -/
lemma number_mono (h : number seen a = some i) (more : List α) :
    number (seen ++ more) a = some i := by
  have hlt := number_lt h
  rw [number_eq_some] at h ⊢
  rw [order_append, List.getElem?_append_left hlt]
  exact h

/-- A thing that was not seen before has the next number. -/
lemma number_snoc_self (h : a ∉ seen) : number (seen ++ [a]) a = some (order seen).length := by
  rw [number_eq_some, order_snoc, if_neg h]
  exact List.getElem?_concat_length

/-- A search in a list of what was numbered finds what the number says. -/
lemma find?_numbered {β : Type} {f : α × ℕ → β} {p : β → Bool}
    (hp : ∀ t, p (f t) = decide (t.1 = a)) :
    ((order seen).zipIdx.map f).find? p = (number seen a).map fun i => f (a, i) := by
  rcases hnumber : number seen a with _ | i
  · rw [Option.map_none, List.find?_eq_none]
    intro x hx
    obtain ⟨t, ht, rfl⟩ := List.mem_map.mp hx
    rw [hp, decide_eq_true_iff]
    rintro rfl
    exact number_eq_none.mp hnumber (mem_order.mp (List.fst_mem_of_mem_zipIdx ht))
  · obtain ⟨hi, ha⟩ := List.getElem?_eq_some_iff.mp (number_eq_some.mp hnumber)
    have hlen : ((order seen).zipIdx.map f).length = (order seen).length := by simp
    rw [Option.map_some, List.find?_eq_some_iff_getElem]
    refine ⟨by rw [hp]; exact decide_eq_true rfl, i, hlen ▸ hi, by simp [ha], fun j hj => ?_⟩
    have hbefore : j < (order seen).length := hj.trans hi
    have hother : (order seen)[j] ≠ a := by
      rw [← ha]
      exact fun heq => absurd ((nodup_order seen).getElem_inj_iff.mp heq) hj.ne
    simpa [hp] using hother

end Numbering
