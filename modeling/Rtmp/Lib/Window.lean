import Mathlib.Tactic

/-!
A stretch of a list, overwritten in place.

* `Window.get`, `Window.put`, `Window.cut`: the elements of a stretch, the list with others in their
  place, and the list without them;
* `get_put`, `cut_put`: what was put is there, and the rest is as it was;
* `getElem?_put`, `get_put_of_disjoint`: so is every other stretch;
* `foldl_put`: stretches that are put one behind the other make up the list;
* `Window.blocks`: the whole stretches of one length that a list starts with; `flatMap_blocks`: they are
  all of it when its length is a multiple;
* `Window.fill`: a loop over the indices of an array that sets each of them; `fill_spec`: it computes
  every recurrence that its body computes.
-/

namespace Window

variable {α : Type}

/-- The `n` elements from `pos` on. -/
def get (pos n : ℕ) (l : List α) : List α := (l.drop pos).take n

/-- The list with `d` in place of as many elements from `pos` on. -/
def put (pos : ℕ) (d l : List α) : List α := l.take pos ++ (d ++ l.drop (pos + d.length))

/-- The list without the `n` elements from `pos` on. -/
def cut (pos n : ℕ) (l : List α) : List α := l.take pos ++ l.drop (pos + n)

variable {pos i n : ℕ} {d l : List α}

lemma length_get (h : pos + n ≤ l.length) : (get pos n l).length = n := by
  rw [get, List.length_take, List.length_drop]
  omega

lemma length_put (h : pos + d.length ≤ l.length) : (put pos d l).length = l.length := by
  simp only [put, List.length_append, List.length_take, List.length_drop]
  omega

lemma take_put (h : pos ≤ l.length) : (put pos d l).take pos = l.take pos := by
  rw [put, List.take_left' (by rw [List.length_take]; omega)]

lemma drop_put (h : pos ≤ l.length) : (put pos d l).drop pos = d ++ l.drop (pos + d.length) := by
  rw [put, List.drop_left' (by rw [List.length_take]; omega)]

/-- What was put is there. -/
@[simp] lemma get_put (h : pos ≤ l.length) : get pos d.length (put pos d l) = d := by
  rw [get, drop_put h, List.take_left]

/-- The rest is as it was. -/
@[simp] lemma cut_put (h : pos ≤ l.length) :
    cut pos d.length (put pos d l) = cut pos d.length l := by
  rw [cut, take_put h, ← List.drop_drop, drop_put h, List.drop_left, cut]

/-- Nothing else changes. -/
lemma getElem?_put (h : pos + d.length ≤ l.length) (hi : i < pos ∨ pos + d.length ≤ i) :
    (put pos d l)[i]? = l[i]? := by
  rcases hi with hi | hi
  · rw [put, List.getElem?_append_left (by rw [List.length_take]; omega), List.getElem?_take_of_lt hi]
  · have htake : (l.take pos).length = pos := by
      rw [List.length_take]
      omega
    rw [put, List.getElem?_append_right (by omega), htake, List.getElem?_append_right (by omega),
      List.getElem?_drop]
    congr 1
    omega

/-- A stretch that does not meet the one that is overwritten stays. -/
lemma get_put_of_disjoint (h : pos + d.length ≤ l.length) (hi : i + n ≤ pos ∨ pos + d.length ≤ i) :
    get i n (put pos d l) = get i n l := by
  refine List.ext_getElem? fun k => ?_
  by_cases hk : k < n
  · rw [get, get, List.getElem?_take_of_lt hk, List.getElem?_take_of_lt hk, List.getElem?_drop,
      List.getElem?_drop, getElem?_put h (by omega)]
  · rw [get, get, List.getElem?_take, List.getElem?_take, if_neg hk, if_neg hk]

/-- Stretches put one behind the other. -/
lemma foldl_put {k : ℕ} (ds : Fin k → List α) (hds : ∀ i, (ds i).length = n) (h : k * n ≤ l.length) :
    Fin.foldl k (fun out i => put (i * n) (ds i) out) l = (List.ofFn ds).flatten ++ l.drop (k * n) := by
  induction k with
  | zero => simp
  | succ k ih =>
      have hle : k * n + n ≤ l.length := by rwa [← Nat.succ_mul]
      have hflat : (List.ofFn fun i : Fin k => ds i.castSucc).flatten.length = k * n := by
        rw [List.length_flatten, List.map_ofFn, List.sum_ofFn]
        simp [hds]
      have hprev := ih (fun i => ds i.castSucc) (fun i => hds i.castSucc) (by omega)
      simp only [Fin.foldl_succ_last, Fin.val_castSucc, Fin.val_last, hprev]
      rw [put, List.take_left' hflat, hds, ← List.drop_drop, List.drop_left' hflat, List.drop_drop,
        List.ofFn_succ', List.concat_eq_append, List.flatten_append, List.flatten_singleton,
        List.append_assoc, ← Nat.succ_mul]

/-! ### Blocks -/

/-- The blocks of `n` elements that a list starts with; less than a block may be left over. -/
def blocks (n : ℕ) (l : List α) : List (List.Vector α n) :=
  List.ofFn fun i : Fin (l.length / n) => ⟨get (n * i) n l, length_get (by
    calc n * i + n = n * (i + 1) := by ring
      _ ≤ n * (l.length / n) := Nat.mul_le_mul_left n i.isLt
      _ ≤ l.length := Nat.mul_div_le l.length n)⟩

/-- Consecutive stretches make up the front of a list. -/
lemma flatten_ofFn_get (k n : ℕ) (l : List α) :
    (List.ofFn fun i : Fin k => get (n * i) n l).flatten = l.take (n * k) := by
  induction k with
  | zero => simp
  | succ k ih =>
      rw [List.ofFn_succ', List.concat_eq_append, List.flatten_append, List.flatten_singleton]
      simp only [Fin.val_castSucc, Fin.val_last, ih]
      rw [get, ← List.take_add, Nat.mul_succ]

/-- **Nothing is left over** of a list whose length is a multiple. -/
theorem flatMap_blocks (h : n ∣ l.length) : (blocks n l).flatMap List.Vector.toList = l := by
  have hmap : (blocks n l).map List.Vector.toList
      = List.ofFn fun i : Fin (l.length / n) => get (n * i) n l := List.map_ofFn ..
  rw [List.flatMap_def, hmap, flatten_ofFn_get, Nat.mul_div_cancel' h, List.take_length]

/-! ### Loops over an array -/

/-- Set the `k` elements from `lo` on, one after the other. -/
def fill {m : ℕ} (lo k : ℕ) (h : lo + k ≤ m) (f : Fin k → Vector α m → α) (w : Vector α m) :
    Vector α m :=
  Fin.foldl k (fun w i => w.set (lo + i) (f i w)) w

/-- What the body of the loop computes from the elements before, the loop computes. -/
theorem fill_spec {m lo k : ℕ} (h : lo + k ≤ m) {f : Fin k → Vector α m → α} {w : Vector α m}
    {W : ℕ → α} (hstart : ∀ t (_ : t < lo), w[t] = W t)
    (hstep : ∀ (i : Fin k) (w' : Vector α m), (∀ t (_ : t < lo + i), w'[t] = W t) →
      f i w' = W (lo + i)) :
    ∀ t (_ : t < lo + k), (fill lo k h f w)[t] = W t := by
  induction k with
  | zero => exact hstart
  | succ k ih =>
      intro t ht
      have hprev := ih (Nat.le_of_succ_le h) (f := fun i => f i.castSucc) hstart
        fun i => hstep i.castSucc
      simp only [fill, Fin.foldl_succ_last, Vector.getElem_set, Fin.val_last]
      split_ifs with heq
      · subst heq
        exact hstep (Fin.last k) _ hprev
      · exact hprev t (by omega)

end Window
