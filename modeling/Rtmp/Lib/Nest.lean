import Mathlib.Tactic

/-!
Nested groups, and the order in which a queue serves what they hold.

A group that comes off the front of a queue puts its members at the end, so a queue serves the items
of nested groups level by level.

* `Nest.items`: the items from left to right; `Nest.levelOrder`: as a queue serves them;
* `Nest.levelOrder_append`: a queue serves one generation, then the members of its groups;
* `Nest.Deepening`: no item lies less deep than the one before it;
* `Nest.levelOrder_eq_items`: then the queue keeps the order, and when the items are distinct only
  then (`Nest.deepening_of_levelOrder_eq`);
* `Nest.servedInTurn`: each nest of a row served by itself.
-/

/-- An item, or a labelled group of nests. -/
inductive Nest (ν α : Type) where
  | item (a : α)
  | group (label : ν) (members : List (Nest ν α))

namespace Nest

variable {ν α β : Type}

mutual

/-- The items of a nest, from left to right. -/
def itemsOf : Nest ν α → List α
  | item a => [a]
  | group _ ts => items ts

/-- The items of a row of nests, from left to right. -/
def items : List (Nest ν α) → List α
  | [] => []
  | t :: ts => itemsOf t ++ items ts

end

mutual

/-- How many items and groups a nest consists of. -/
def countOf : Nest ν α → ℕ
  | item _ => 1
  | group _ ts => count ts + 1

/-- The same for a row of nests. -/
def count : List (Nest ν α) → ℕ
  | [] => 0
  | t :: ts => countOf t + count ts

end

mutual

/-- Every item with how deep it lies, the outermost ones at `d`. -/
def markOf (d : ℕ) : Nest ν α → Nest ν (ℕ × α)
  | item a => item (d, a)
  | group n ts => group n (mark (d + 1) ts)

/-- The same for a row of nests. -/
def mark (d : ℕ) : List (Nest ν α) → List (Nest ν (ℕ × α))
  | [] => []
  | t :: ts => markOf d t :: mark d ts

end

/-- The item a nest is, if it is one. -/
def item? : Nest ν α → Option α
  | item a => some a
  | group _ _ => none

/-- The members of a group. -/
def members : Nest ν α → List (Nest ν α)
  | item _ => []
  | group _ ts => ts

/-- The items that lie in no group. -/
def roots (ts : List (Nest ν α)) : List α := ts.filterMap item?

/-- The next generation: the members of all groups. -/
def kids (ts : List (Nest ν α)) : List (Nest ν α) := ts.flatMap members

/-! ### Rows -/

@[simp] lemma items_append (ts us : List (Nest ν α)) : items (ts ++ us) = items ts ++ items us := by
  induction ts with
  | nil => rfl
  | cons t ts ih => rw [List.cons_append, items, items, ih, List.append_assoc]

@[simp] lemma count_append (ts us : List (Nest ν α)) : count (ts ++ us) = count ts + count us := by
  induction ts with
  | nil => simp [count]
  | cons t ts ih =>
      rw [List.cons_append, count, count, ih]
      omega

lemma mark_append (d : ℕ) (ts us : List (Nest ν α)) : mark d (ts ++ us) = mark d ts ++ mark d us := by
  induction ts with
  | nil => rfl
  | cons t ts ih => rw [List.cons_append, mark, mark, ih, List.cons_append]

@[simp] lemma roots_item (a : α) (ts : List (Nest ν α)) : roots (item a :: ts) = a :: roots ts := rfl

@[simp] lemma roots_group (n : ν) (ms ts : List (Nest ν α)) :
    roots (group n ms :: ts) = roots ts := rfl

@[simp] lemma kids_item (a : α) (ts : List (Nest ν α)) : kids (item a :: ts) = kids ts := rfl

@[simp] lemma kids_group (n : ν) (ms ts : List (Nest ν α)) :
    kids (group n ms :: ts) = ms ++ kids ts := rfl

lemma count_kids_le (ts : List (Nest ν α)) : count (kids ts) ≤ count ts := by
  induction ts with
  | nil => exact le_refl _
  | cons t ts ih =>
      cases t with
      | item a =>
          rw [kids_item, count]
          omega
      | group n ms =>
          rw [kids_group, count_append, count, countOf]
          omega

/-- The next generation is smaller. -/
lemma count_kids_lt {ts : List (Nest ν α)} (h : ts ≠ []) : count (kids ts) < count ts := by
  obtain ⟨t, ts, rfl⟩ := List.exists_cons_of_ne_nil h
  have hrest := count_kids_le ts
  cases t with
  | item a =>
      rw [kids_item, count, countOf]
      omega
  | group n ms =>
      rw [kids_group, count_append, count, countOf]
      omega

/-! ### The order of a queue -/

/-- The items in the order a queue serves them. -/
def levelOrder : List (Nest ν α) → List α
  | [] => []
  | item a :: ts => a :: levelOrder ts
  | group _ ms :: ts => levelOrder (ts ++ ms)
termination_by ts => count ts
decreasing_by
  · simp only [count, countOf]
    omega
  · simp only [count_append, count, countOf]
    omega

@[simp] lemma levelOrder_nil : levelOrder ([] : List (Nest ν α)) = [] := by rw [levelOrder]

lemma levelOrder_item (a : α) (ts : List (Nest ν α)) :
    levelOrder (item a :: ts) = a :: levelOrder ts := by rw [levelOrder]

lemma levelOrder_group (n : ν) (ms ts : List (Nest ν α)) :
    levelOrder (group n ms :: ts) = levelOrder (ts ++ ms) := by rw [levelOrder]

/-- **Generations**: the front of a queue is served before what its groups hold, which comes after
what was behind it. -/
theorem levelOrder_append (ts us : List (Nest ν α)) :
    levelOrder (ts ++ us) = roots ts ++ levelOrder (us ++ kids ts) := by
  induction ts generalizing us with
  | nil =>
      rw [List.nil_append, kids, List.flatMap_nil, List.append_nil]
      rfl
  | cons t ts ih =>
      cases t with
      | item a => rw [List.cons_append, levelOrder_item, ih, roots_item, kids_item, List.cons_append]
      | group n ms =>
          rw [List.cons_append, levelOrder_group, List.append_assoc, ih, roots_group, kids_group,
            List.append_assoc]

lemma levelOrder_eq (ts : List (Nest ν α)) : levelOrder ts = roots ts ++ levelOrder (kids ts) := by
  have h := levelOrder_append ts []
  rwa [List.append_nil, List.nil_append] at h

/-- A queue serves what there is. -/
theorem levelOrder_perm (ts : List (Nest ν α)) : (levelOrder ts).Perm (items ts) := by
  induction ts using levelOrder.induct with
  | case1 => simp [items]
  | case2 a ts ih =>
      rw [levelOrder_item, items, itemsOf]
      exact ih.cons a
  | case3 n ms ts ih =>
      rw [levelOrder_group, items, itemsOf]
      rw [items_append] at ih
      exact ih.trans List.perm_append_comm

/-! ### Depths -/

lemma kids_mark (d : ℕ) (ts : List (Nest ν α)) : kids (mark d ts) = mark (d + 1) (kids ts) := by
  induction ts with
  | nil => rfl
  | cons t ts ih =>
      cases t with
      | item a => rw [mark, markOf, kids_item, kids_item, ih]
      | group n ms => rw [mark, markOf, kids_group, kids_group, ih, mark_append]

lemma roots_mark (d : ℕ) (ts : List (Nest ν α)) : roots (mark d ts) = (roots ts).map (d, ·) := by
  induction ts with
  | nil => rfl
  | cons t ts ih =>
      cases t with
      | item a => rw [mark, markOf, roots_item, roots_item, ih, List.map_cons]
      | group n ms => rw [mark, markOf, roots_group, roots_group, ih]

mutual

lemma itemsOf_markOf (d : ℕ) (t : Nest ν α) : (itemsOf (markOf d t)).map Prod.snd = itemsOf t := by
  cases t with
  | item a => rfl
  | group n ms => exact items_mark (d + 1) ms

/-- The depths are put beside the items. -/
lemma items_mark (d : ℕ) (ts : List (Nest ν α)) : (items (mark d ts)).map Prod.snd = items ts := by
  cases ts with
  | nil => rfl
  | cons t ts => rw [mark, items, items, List.map_append, itemsOf_markOf d t, items_mark d ts]

end

mutual

lemma le_of_mem_itemsOf_markOf {d : ℕ} (t : Nest ν α) : ∀ p ∈ itemsOf (markOf d t), d ≤ p.1 := by
  intro p hp
  cases t with
  | item a =>
      rw [markOf, itemsOf, List.mem_singleton] at hp
      exact le_of_eq (congrArg Prod.fst hp).symm
  | group n ms => exact (Nat.le_succ d).trans (le_of_mem_items_mark ms p hp)

/-- Nothing lies less deep than the outermost level. -/
lemma le_of_mem_items_mark {d : ℕ} (ts : List (Nest ν α)) : ∀ p ∈ items (mark d ts), d ≤ p.1 := by
  intro p hp
  cases ts with
  | nil => cases hp
  | cons t ts =>
      rw [mark, items, List.mem_append] at hp
      exact hp.elim (le_of_mem_itemsOf_markOf t p) (le_of_mem_items_mark ts p)

end

/-- No item lies less deep than the one before it. -/
def Deepening (ts : List (Nest ν α)) : Prop :=
  (items (mark 0 ts)).Pairwise fun p q => p.1 ≤ q.1

/-- Items that lie ever deeper come generation by generation. -/
lemma items_mark_eq {d : ℕ} {ts : List (Nest ν α)}
    (h : (items (mark d ts)).Pairwise fun p q => p.1 ≤ q.1) :
    items (mark d ts) = roots (mark d ts) ++ items (mark (d + 1) (kids ts)) := by
  induction ts with
  | nil => rfl
  | cons t ts ih =>
      rw [mark, items, List.pairwise_append] at h
      obtain ⟨-, hrest, hsplit⟩ := h
      cases t with
      | item a => rw [mark, markOf, items, itemsOf, ih hrest, roots_item, kids_item]; rfl
      | group n ms =>
          rw [mark, markOf, items, itemsOf, roots_group, kids_group, mark_append, items_append,
            ih hrest]
          rcases hms : items (mark (d + 1) ms) with _ | ⟨p, ps⟩
          · rw [List.nil_append, List.nil_append]
          · -- An item inside the group lies deeper than any item beside it could.
            have hnone : roots (mark d ts) = [] := by
              rw [roots_mark]
              refine List.map_eq_nil_iff.mpr (List.eq_nil_iff_forall_not_mem.mpr fun a ha => ?_)
              have hp : p ∈ items (mark (d + 1) ms) := hms ▸ List.mem_cons_self ..
              have ha' : (d, a) ∈ items (mark d ts) := by
                rw [ih hrest, roots_mark]
                exact List.mem_append_left _ (List.mem_map_of_mem ha)
              have hle : p.1 ≤ d := hsplit p hp (d, a) ha'
              have hdeep := le_of_mem_items_mark ms p hp
              omega
            rw [hnone, List.nil_append, List.nil_append]

lemma levelOrder_mark_eq {d : ℕ} (ts : List (Nest ν α))
    (h : (items (mark d ts)).Pairwise fun p q => p.1 ≤ q.1) :
    levelOrder ts = items ts := by
  induction hn : count ts using Nat.strong_induction_on generalizing d ts with
  | _ n ih =>
      by_cases hnil : ts = []
      · rw [hnil, levelOrder_nil, items]
      · have hsplit := items_mark_eq h
        have hkids := ih (count (kids ts)) (hn ▸ count_kids_lt hnil) (d := d + 1) (kids ts)
          ((hsplit ▸ h).sublist (List.sublist_append_right _ _)) rfl
        calc levelOrder ts = roots ts ++ levelOrder (kids ts) := levelOrder_eq ts
          _ = roots ts ++ items (kids ts) := by rw [hkids]
          _ = (items (mark d ts)).map Prod.snd := by
              rw [hsplit, List.map_append, roots_mark, items_mark, List.map_map]
              simp
          _ = items ts := items_mark d ts

/-- **Order kept**: items that lie ever deeper are served from left to right. -/
theorem levelOrder_eq_items {ts : List (Nest ν α)} (h : Deepening ts) : levelOrder ts = items ts :=
  levelOrder_mark_eq ts h

/-- What a queue serves gets ever deeper. -/
lemma levelOrder_mark_deepens (d : ℕ) (ts : List (Nest ν α)) :
    (levelOrder (mark d ts)).Pairwise fun p q => p.1 ≤ q.1 := by
  induction hn : count ts using Nat.strong_induction_on generalizing d ts with
  | _ n ih =>
      by_cases hnil : ts = []
      · rw [hnil, mark, levelOrder_nil]
        exact .nil
      · rw [levelOrder_eq, kids_mark, roots_mark, List.pairwise_append]
        have hkids := ih (count (kids ts)) (hn ▸ count_kids_lt hnil) (d + 1) (kids ts) rfl
        refine ⟨List.pairwise_map.mpr (List.pairwise_of_forall fun _ _ => le_refl d), hkids, ?_⟩
        intro p hp q hq
        obtain ⟨a, -, rfl⟩ := List.mem_map.mp hp
        have hq' : q ∈ items (mark (d + 1) (kids ts)) := (levelOrder_perm _).mem_iff.mp hq
        exact (Nat.le_succ d).trans (le_of_mem_items_mark _ q hq')

lemma levelOrder_mark (d : ℕ) (ts : List (Nest ν α)) :
    (levelOrder (mark d ts)).map Prod.snd = levelOrder ts := by
  induction hn : count ts using Nat.strong_induction_on generalizing d ts with
  | _ n ih =>
      by_cases hnil : ts = []
      · rw [hnil, mark, levelOrder_nil, levelOrder_nil, List.map_nil]
      · rw [levelOrder_eq, levelOrder_eq ts, kids_mark, roots_mark, List.map_append, List.map_map,
          ih (count (kids ts)) (hn ▸ count_kids_lt hnil) (d + 1) (kids ts) rfl]
        simp

/-- Lists with the same images are the same where the function tells their members apart. -/
lemma eq_of_map_eq {f : α → β} {l m : List α} (hinj : ∀ a ∈ l, ∀ b ∈ m, f a = f b → a = b)
    (h : l.map f = m.map f) : l = m := by
  induction l generalizing m with
  | nil => exact (List.map_eq_nil_iff.mp h.symm).symm
  | cons a l ih =>
      obtain ⟨b, m, rfl⟩ : ∃ b m', m = b :: m' := by
        cases m with
        | nil => cases h
        | cons b m => exact ⟨b, m, rfl⟩
      rw [List.map_cons, List.map_cons, List.cons.injEq] at h
      rw [hinj a (List.mem_cons_self ..) b (List.mem_cons_self ..) h.1,
        ih (fun x hx y hy => hinj x (List.mem_cons_of_mem _ hx) y (List.mem_cons_of_mem _ hy)) h.2]

/-- **Order lost**: distinct items that a queue serves from left to right lie ever deeper. -/
theorem deepening_of_levelOrder_eq {ts : List (Nest ν α)} (hnodup : (items ts).Nodup)
    (h : levelOrder ts = items ts) : Deepening ts := by
  have hmarked : levelOrder (mark 0 ts) = items (mark 0 ts) := by
    refine eq_of_map_eq (f := Prod.snd) (fun p hp q hq hpq => ?_) ?_
    · have hp' : p ∈ items (mark 0 ts) := (levelOrder_perm _).mem_iff.mp hp
      exact List.inj_on_of_nodup_map ((items_mark 0 ts).symm ▸ hnodup) hp' hq hpq
    · rw [levelOrder_mark, items_mark, h]
  rw [Deepening, ← hmarked]
  exact levelOrder_mark_deepens 0 ts

/-! ### Rows served nest by nest -/

/-- Each nest of a row is served before the next one comes. -/
def servedInTurn (ts : List (Nest ν α)) : List α := ts.flatMap fun t => levelOrder [t]

lemma items_singleton (t : Nest ν α) : items [t] = itemsOf t := by
  rw [items, items, List.append_nil]

lemma servedInTurn_cons (t : Nest ν α) (ts : List (Nest ν α)) :
    servedInTurn (t :: ts) = levelOrder [t] ++ servedInTurn ts := List.flatMap_cons

lemma servedInTurn_perm (ts : List (Nest ν α)) : (servedInTurn ts).Perm (items ts) := by
  induction ts with
  | nil => exact .refl _
  | cons t ts ih =>
      rw [servedInTurn_cons, items, ← items_singleton]
      exact (levelOrder_perm [t]).append ih

/-- Items that are in no group are served as they come. -/
lemma servedInTurn_item (as : List α) :
    servedInTurn (as.map item : List (Nest ν α)) = as := by
  induction as with
  | nil => rfl
  | cons a as ih =>
      rw [List.map_cons, servedInTurn_cons, ih, levelOrder_item, levelOrder_nil, List.singleton_append]

lemma items_item (as : List α) : items (as.map item : List (Nest ν α)) = as := by
  induction as with
  | nil => rfl
  | cons a as ih => rw [List.map_cons, items, itemsOf, ih, List.singleton_append]

/-- The order is kept if it is kept in every nest. -/
theorem servedInTurn_eq_items {ts : List (Nest ν α)} (h : ∀ t ∈ ts, Deepening [t]) :
    servedInTurn ts = items ts := by
  induction ts with
  | nil => rfl
  | cons t ts ih =>
      rw [servedInTurn_cons, items, levelOrder_eq_items (h t List.mem_cons_self), items_singleton,
        ih fun u hu => h u (List.mem_cons_of_mem _ hu)]

/-- The order of distinct items is kept only if it is kept in every nest. -/
theorem deepening_of_servedInTurn_eq {ts : List (Nest ν α)} (hnodup : (items ts).Nodup)
    (h : servedInTurn ts = items ts) : ∀ t ∈ ts, Deepening [t] := by
  induction ts with
  | nil => exact fun t ht => absurd ht List.not_mem_nil
  | cons t ts ih =>
      rw [servedInTurn_cons, items, ← items_singleton] at h
      rw [items, ← items_singleton, List.nodup_append] at hnodup
      obtain ⟨hhead, htail⟩ := List.append_inj h (levelOrder_perm [t]).length_eq
      intro u hu
      rcases List.mem_cons.mp hu with rfl | hu
      · exact deepening_of_levelOrder_eq hnodup.1 hhead
      · exact ih hnodup.2.1 htail u hu

end Nest
