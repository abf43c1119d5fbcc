import Mathlib.Tactic

/-!
Maps that remember the order in which their keys were first set.

* `OrderedMap`: entries with distinct keys;
* `OrderedMap.upsert`, `OrderedMap.erase`: an entry is replaced where it stands, or added at the end;
  and an entry is dropped;
* `keys_upsert_of_mem`, `keys_upsert_of_not_mem`: what becomes of the keys;
* `OrderedMap.entries_upsert_cons`: the front of an updated map, by which a loop over the entries is
  compared with it;
* `KeyedRow.upsert`: the same update of a row whose keys may repeat, where the first entry of a key
  counts; `find?_upsert` and `filter_upsert` say what is found in it, and what stays;
* `entries_upsert_eq`: on a map the two are the same;
* `OrderedMap.get`, `OrderedMap.ofHistory`: looking a key up, and setting keys one after the other;
* **`keys_ofHistory`, `get_ofHistory`**: the keys stand as they were first set, with what was set last.
-/

/-- Entries in a row, no two of which have the same key. -/
structure OrderedMap (κ ν : Type) where
  entries : List (κ × ν)
  nodup : (entries.map Prod.fst).Nodup

namespace OrderedMap

variable {κ ν : Type} [DecidableEq κ] {m : OrderedMap κ ν} {k k' : κ} {v v' : ν}

def keys (m : OrderedMap κ ν) : List κ := m.entries.map Prod.fst

def empty : OrderedMap κ ν := ⟨[], List.nodup_nil⟩

/-- The entries with the value of a key replaced. -/
def replace (k : κ) (v : ν) (entries : List (κ × ν)) : List (κ × ν) :=
  entries.map fun e => if e.1 = k then (k, v) else e

@[simp] lemma keys_replace (k : κ) (v : ν) (entries : List (κ × ν)) :
    (replace k v entries).map Prod.fst = entries.map Prod.fst := by
  rw [replace, List.map_map]
  refine List.map_congr_left fun e _ => ?_
  by_cases h : e.1 = k
  · simp [h]
  · simp [h]

lemma replace_of_not_mem {entries : List (κ × ν)} (h : k ∉ entries.map Prod.fst) :
    replace k v entries = entries := by
  have hself : entries.map (fun e => if e.1 = k then (k, v) else e) = entries.map id := by
    refine List.map_congr_left fun e he => if_neg ?_
    rintro rfl
    exact h (List.mem_map_of_mem he)
  rw [replace, hself, List.map_id]

/-- The value of a key is replaced where the key stands. -/
lemma replace_middle {a b : List (κ × ν)} (h : ((a ++ (k, v') :: b).map Prod.fst).Nodup) :
    replace k v (a ++ (k, v') :: b) = a ++ (k, v) :: b := by
  rw [List.map_append, List.map_cons] at h
  have hmiddle := List.nodup_middle.mp h
  rw [List.nodup_cons, List.mem_append, not_or] at hmiddle
  obtain ⟨⟨ha, hb⟩, -⟩ := hmiddle
  rw [replace, List.map_append, List.map_cons, if_pos rfl]
  exact congrArg₂ _ (replace_of_not_mem ha) (congrArg _ (replace_of_not_mem hb))

/-- Set the value of a key: in its place if it has one, at the end otherwise. -/
def upsert (k : κ) (v : ν) (m : OrderedMap κ ν) : OrderedMap κ ν :=
  if h : k ∈ m.keys then ⟨replace k v m.entries, by rw [keys_replace]; exact m.nodup⟩
  else
    { entries := m.entries ++ [(k, v)]
      nodup := by
        rw [List.map_append, List.map_singleton, List.nodup_append]
        exact ⟨m.nodup, List.nodup_singleton k, fun a ha b hb => by
          rw [List.mem_singleton.mp hb]
          rintro rfl
          exact h ha⟩ }

lemma entries_upsert : (m.upsert k v).entries
    = if k ∈ m.keys then replace k v m.entries else m.entries ++ [(k, v)] := by
  rw [upsert]
  split_ifs <;> rfl

/-- Drop the entry of a key. -/
def erase (k : κ) (m : OrderedMap κ ν) : OrderedMap κ ν where
  entries := m.entries.filter fun e => e.1 ≠ k
  nodup := m.nodup.sublist (List.filter_sublist.map Prod.fst)

lemma keys_upsert_of_mem (h : k ∈ m.keys) : (m.upsert k v).keys = m.keys := by
  rw [keys, entries_upsert, if_pos h]
  exact keys_replace k v m.entries

lemma keys_upsert_of_not_mem (h : k ∉ m.keys) : (m.upsert k v).keys = m.keys ++ [k] := by
  rw [keys, entries_upsert, if_neg h]
  exact List.map_append

/-- The front entry of an updated map is replaced, or the update goes on behind it. -/
lemma entries_upsert_cons {rest : List (κ × ν)} (h : m.entries = (k', v') :: rest)
    (hrest : (rest.map Prod.fst).Nodup) :
    (m.upsert k v).entries
      = if k' = k then (k', v) :: rest
        else (k', v') :: (upsert k v ⟨rest, hrest⟩).entries := by
  have hnodup := m.nodup
  rw [h, List.map_cons, List.nodup_cons] at hnodup
  have hkeys : k ∈ m.keys ↔ k = k' ∨ k ∈ rest.map Prod.fst := by
    rw [keys, h, List.map_cons, List.mem_cons]
  rw [entries_upsert, entries_upsert, h]
  by_cases hk : k' = k
  · subst hk
    have hsame : replace k' v rest = rest := replace_of_not_mem hnodup.1
    rw [if_pos rfl, if_pos (hkeys.mpr (.inl rfl)), replace, List.map_cons, if_pos rfl]
    exact congrArg _ hsame
  · rw [if_neg hk]
    by_cases hmem : k ∈ rest.map Prod.fst
    · have hrestKeys : k ∈ keys ⟨rest, hrest⟩ := hmem
      rw [if_pos (hkeys.mpr (.inr hmem)), if_pos hrestKeys, replace, List.map_cons, if_neg hk]
      rfl
    · have hrestKeys : k ∉ keys ⟨rest, hrest⟩ := hmem
      have hnot : k ∉ m.keys := fun hin => (hkeys.mp hin).elim (fun h => hk h.symm) hmem
      rw [if_neg hnot, if_neg hrestKeys]
      rfl

end OrderedMap

namespace KeyedRow

variable {κ ν : Type} [DecidableEq κ]

/-- Set the value of the first entry of a key, or add an entry at the end. -/
def upsert (k : κ) (v : ν) : List (κ × ν) → List (κ × ν)
  | [] => [(k, v)]
  | e :: es => if e.1 = k then (k, v) :: es else e :: upsert k v es

/-- After an update the key has its value, and every other key what it had. -/
lemma find?_upsert (k k' : κ) (v : ν) (es : List (κ × ν)) :
    (upsert k v es).find? (fun e => e.1 = k')
      = if k = k' then some (k, v) else es.find? fun e => e.1 = k' := by
  induction es with
  | nil =>
      rw [upsert, List.find?_cons, List.find?_nil]
      by_cases h : k = k' <;> simp [h]
  | cons e es ih =>
      rw [upsert]
      split_ifs with he h h
      · simp [h]
      · rw [List.find?_cons, List.find?_cons, he]
        simp [h]
      · rw [List.find?_cons, ih, if_pos h]
        simp [← h, he]
      · rw [List.find?_cons, ih, if_neg h, List.find?_cons]

/-- The entries of other keys stay where they are. -/
lemma filter_upsert {k : κ} {q : κ → Bool} (hk : q k = false) (v : ν) (es : List (κ × ν)) :
    ((upsert k v es).filter fun e => q e.1) = es.filter fun e => q e.1 := by
  induction es with
  | nil => simp [upsert, hk]
  | cons e es ih =>
      rw [upsert]
      split_ifs with he
      · simp [he, hk]
      · rw [List.filter_cons, List.filter_cons, ih]

end KeyedRow

namespace OrderedMap

variable {κ ν : Type} [DecidableEq κ] {m : OrderedMap κ ν} {k k' : κ} {v : ν} {h : List (κ × ν)}

/-- The update of a map is that of its row: the first entry of a key is the only one. -/
lemma entries_upsert_eq : (m.upsert k v).entries = KeyedRow.upsert k v m.entries := by
  obtain ⟨entries, hnodup⟩ := m
  induction entries with
  | nil => rfl
  | cons e rest ih =>
      have hrest : (rest.map Prod.fst).Nodup := (List.nodup_cons.mp hnodup).2
      rw [entries_upsert_cons rfl hrest, ih hrest, KeyedRow.upsert]
      by_cases he : e.1 = k
      · rw [if_pos he, if_pos he, he]
      · rw [if_neg he, if_neg he]

def get (m : OrderedMap κ ν) (k : κ) : Option ν := (m.entries.find? fun e => e.1 = k).map Prod.snd

lemma get_upsert : (m.upsert k v).get k' = if k = k' then some v else m.get k' := by
  rw [get, entries_upsert_eq, KeyedRow.find?_upsert, apply_ite (Option.map Prod.snd)]
  rfl

/-- The keys of a row, set one after the other. -/
def ofHistory (h : List (κ × ν)) : OrderedMap κ ν := h.foldl (fun m p => m.upsert p.1 p.2) empty

lemma ofHistory_append (h : List (κ × ν)) (k : κ) (v : ν) :
    ofHistory (h ++ [(k, v)]) = (ofHistory h).upsert k v := by
  rw [ofHistory, List.foldl_append]
  rfl

/-- **The keys stand as they were first set.** -/
theorem keys_ofHistory : (ofHistory h).keys = (h.map Prod.fst).eraseDups := by
  induction h using List.reverseRecOn with
  | nil => rfl
  | append_singleton h p ih =>
      have hmem : p.1 ∈ (ofHistory h).keys ↔ p.1 ∈ h.map Prod.fst := by
        rw [ih, List.mem_eraseDups]
      rw [ofHistory_append, List.map_append, List.map_singleton, List.eraseDups_append, ← ih]
      by_cases hold : p.1 ∈ h.map Prod.fst
      · rw [keys_upsert_of_mem (hmem.mpr hold), List.removeAll]
        simp [hold]
      · rw [keys_upsert_of_not_mem (mt hmem.mp hold), List.removeAll]
        simp [hold, List.eraseDups_cons]

/-- **A key has what was set last.** -/
theorem get_ofHistory : (ofHistory h).get k = (h.reverse.find? fun e => e.1 = k).map Prod.snd := by
  induction h using List.reverseRecOn with
  | nil => rfl
  | append_singleton h p ih =>
      rw [ofHistory_append, get_upsert, ih, List.reverse_append, List.reverse_singleton,
        List.singleton_append, List.find?_cons]
      by_cases hp : p.1 = k <;> simp [hp]

/-- A map is the history of its entries. -/
lemma ofHistory_entries (m : OrderedMap κ ν) : ofHistory m.entries = m := by
  obtain ⟨entries, hnodup⟩ := m
  induction entries using List.reverseRecOn with
  | nil => rfl
  | append_singleton entries e ih =>
      rw [List.map_append, List.nodup_append] at hnodup
      have hnew : e.1 ∉ keys ⟨entries, hnodup.1⟩ :=
        fun hin => hnodup.2.2 e.1 hin e.1 (List.mem_singleton_self _) rfl
      show ofHistory (entries ++ [(e.1, e.2)]) = _
      rw [ofHistory_append, ih hnodup.1, upsert, dif_neg hnew]

end OrderedMap
