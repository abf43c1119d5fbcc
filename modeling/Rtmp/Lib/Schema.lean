import Rtmp.Lib.OrderedMap

/-!
Objects read into records: some properties have a field of their own, the others are kept in a row.

* `Schema`: the names of the fields, the values each of them takes, and what becomes of a value that its
  field does not take: it is kept with the other properties or it is dropped;
* `Schema.Record`: a value or none for each field, and the other properties;
* `Record.insert`, `Record.ofEntries`, `Record.entries`: reading properties one by one, and writing the
  fields in their order and the other properties behind them;
* `entries_insert_perm`: a property that its field takes, and that is the first of its name, is written
  again (the step by which reading is lossless);
* `ofEntries_entries` (**records come back**) and `mem_entries_ofEntries_iff` (**lossless reading**): if
  misfits are dropped, exactly the objects without any are written as they were read.
-/

/-- The fields of a record in the order in which they are written, each with the values it takes, and
whether a value that its field does not take is kept with the other properties. -/
structure Schema (κ ν : Type) where
  fields : List (κ × (ν → Bool))
  nodup : (fields.map Prod.fst).Nodup
  keepsMisfits : Bool

namespace Schema

variable {κ ν : Type}

/-- The fields that have a value. -/
def present (typed : List (κ × Option ν)) : List (κ × ν) := typed.filterMap fun e => e.2.map (e.1, ·)

lemma mem_present {typed : List (κ × Option ν)} {p : κ × ν} :
    p ∈ present typed ↔ (p.1, some p.2) ∈ typed := by
  rw [present, List.mem_filterMap]
  constructor
  · rintro ⟨⟨k, v⟩, he, heq⟩
    obtain ⟨w, rfl, rfl⟩ := Option.map_eq_some_iff.mp heq
    exact he
  · exact fun he => ⟨_, he, rfl⟩

lemma present_append (a b : List (κ × Option ν)) : present (a ++ b) = present a ++ present b :=
  List.filterMap_append

/-- Its names are names of fields. -/
lemma present_sublist (typed : List (κ × Option ν)) :
    ((present typed).map Prod.fst).Sublist (typed.map Prod.fst) := by
  induction typed with
  | nil => exact .slnil
  | cons e typed ih =>
      obtain ⟨k, _ | v⟩ := e
      · exact ih.cons k
      · exact ih.cons_cons k

variable [DecidableEq κ]

/-- In a row of distinct names, what is found under a name is the value its field has. -/
lemma find?_present {typed : List (κ × Option ν)} {k : κ} {v : Option ν}
    (hnodup : (typed.map Prod.fst).Nodup) (h : (k, v) ∈ typed) :
    ((present typed).find? fun p => p.1 == k).map Prod.snd = v := by
  have hunique : ∀ w, (k, some w) ∈ typed → some w = v := by
    intro w hw
    have heq := List.inj_on_of_nodup_map hnodup hw h rfl
    exact congrArg Prod.snd heq
  cases hfind : (present typed).find? fun p => p.1 == k with
  | none =>
      cases v with
      | none => rfl
      | some w => simpa using List.find?_eq_none.mp hfind (k, w) (mem_present.mpr h)
  | some p =>
      have hk : p.1 = k := by simpa using List.find?_some hfind
      have hmem := mem_present.mp (List.mem_of_find?_eq_some hfind)
      rw [hk] at hmem
      exact hunique p.2 hmem

def names (S : Schema κ ν) : List κ := S.fields.map Prod.fst

/-- The field of the name, if there is one, takes the value. -/
def fits (S : Schema κ ν) (p : κ × ν) : Bool :=
  match S.fields.find? fun f => f.1 = p.1 with
  | some f => f.2 p.2
  | none => true

/-- The property is kept with the others. -/
def isOther (S : Schema κ ν) (p : κ × ν) : Bool :=
  match S.fields.find? fun f => f.1 = p.1 with
  | some f => S.keepsMisfits && !f.2 p.2
  | none => true

/-- What the field of the name has from then on. -/
def taken (S : Schema κ ν) (p : κ × ν) : Option ν := if S.fits p then some p.2 else none

/-- A value or none for every field, and the other properties. -/
@[ext] structure Record (S : Schema κ ν) where
  typed : List (κ × Option ν)
  extra : List (κ × ν)
  names : typed.map Prod.fst = S.names
  fits : ∀ p ∈ present typed, S.fits p = true

variable {S : Schema κ ν} {p : κ × ν} {ps : List (κ × ν)}

lemma isOther_of_not_mem (h : p.1 ∉ S.names) : S.isOther p = true := by
  have hnone : S.fields.find? (fun f => f.1 = p.1) = none := by
    refine List.find?_eq_none.mpr fun f hf => ?_
    simp only [decide_eq_true_eq]
    rintro heq
    exact h (heq ▸ List.mem_map_of_mem hf)
  rw [isOther, hnone]

lemma mem_names_of_isOther (h : S.isOther p = false) : p.1 ∈ S.names := by
  by_contra hnot
  rw [isOther_of_not_mem hnot] at h
  cases h

/-- Where misfits are dropped, the other properties are those without a field. -/
lemma isOther_iff (hdrop : S.keepsMisfits = false) : S.isOther p = true ↔ p.1 ∉ S.names := by
  refine ⟨fun h hmem => ?_, isOther_of_not_mem⟩
  obtain ⟨f, hf, hname⟩ := List.mem_map.mp hmem
  cases hfind : S.fields.find? fun f => f.1 = p.1 with
  | none => simpa [hname] using List.find?_eq_none.mp hfind f hf
  | some g =>
      rw [isOther, hfind, hdrop] at h
      cases h

/-- A property without a field fits. -/
lemma fits_of_not_mem (h : p.1 ∉ S.names) : S.fits p = true := by
  have hnone : S.fields.find? (fun f => f.1 = p.1) = none := by
    refine List.find?_eq_none.mpr fun f hf => ?_
    simp only [decide_eq_true_eq]
    rintro heq
    exact h (heq ▸ List.mem_map_of_mem hf)
  rw [fits, hnone]

namespace Record

/-- No field has a value. -/
def empty (S : Schema κ ν) : Record S where
  typed := S.names.map fun k => (k, none)
  extra := []
  names := (List.map_map ..).trans (List.map_id _)
  fits p hp := by simpa using mem_present.mp hp

/-- The value of a field, replaced. -/
def set (r : Record S) (p : κ × ν) : Record S where
  typed := OrderedMap.replace p.1 (S.taken p) r.typed
  extra := r.extra
  names := by rw [OrderedMap.keys_replace, r.names]
  fits q hq := by
    obtain ⟨e, he, heq⟩ := List.mem_map.mp (mem_present.mp hq)
    by_cases hk : e.1 = p.1
    · rw [if_pos hk, taken] at heq
      split_ifs at heq with hfits
      · cases q
        cases heq
        exact hfits
      · simp at heq
    · rw [if_neg hk] at heq
      exact r.fits q (mem_present.mpr (heq ▸ he))

@[simp] lemma typed_set (r : Record S) (p : κ × ν) :
    (r.set p).typed = OrderedMap.replace p.1 (S.taken p) r.typed := rfl

@[simp] lemma extra_set (r : Record S) (p : κ × ν) : (r.set p).extra = r.extra := rfl

/-- Read one property. -/
def insert (r : Record S) (p : κ × ν) : Record S :=
  if S.isOther p then { r with extra := r.extra ++ [p] } else r.set p

/-- Read the properties of an object. -/
def ofEntries (S : Schema κ ν) (ps : List (κ × ν)) : Record S := ps.foldl insert (empty S)

/-- The fields in their order, and the other properties in theirs. -/
def entries (r : Record S) : List (κ × ν) := present r.typed ++ r.extra

variable (r : Record S)

lemma insert_of_isOther (h : S.isOther p = true) : r.insert p = { r with extra := r.extra ++ [p] } :=
  if_pos h

lemma insert_of_not_isOther (h : S.isOther p = false) : r.insert p = r.set p :=
  if_neg (by rw [h]; exact Bool.false_ne_true)

/-- The names of the fields are distinct. -/
lemma nodup_typed : (r.typed.map Prod.fst).Nodup := by
  rw [r.names]
  exact S.nodup

/-! ### Reading -/

/-- The other properties are read in their order. -/
lemma extra_insert : (r.insert p).extra = r.extra ++ [p].filter S.isOther := by
  cases h : S.isOther p with
  | true => rw [insert_of_isOther r h, List.filter_singleton, h]; rfl
  | false =>
      rw [insert_of_not_isOther r h, List.filter_singleton, h]
      exact (List.append_nil _).symm

lemma extra_foldl : (ps.foldl insert r).extra = r.extra ++ ps.filter S.isOther := by
  induction ps generalizing r with
  | nil => exact (List.append_nil _).symm
  | cons p ps ih =>
      rw [List.foldl_cons, ih, extra_insert, List.append_assoc, ← List.filter_append]
      rfl

/-- Other properties only are read behind those that are there. -/
lemma foldl_insert_others (h : ∀ p ∈ ps, S.isOther p = true) :
    ps.foldl insert r = { r with extra := r.extra ++ ps } := by
  induction ps generalizing r with
  | nil =>
      ext1
      · rfl
      · exact (List.append_nil _).symm
  | cons p ps ih =>
      rw [List.foldl_cons, ih _ fun q hq => h q (List.mem_cons_of_mem _ hq),
        insert_of_isOther r (h p List.mem_cons_self)]
      ext1
      · rfl
      · exact List.append_assoc _ _ _

/-- No property of the name was read. -/
def Free (k : κ) : Prop := k ∈ S.names → (k, none) ∈ r.typed

lemma free_empty (k : κ) : (empty S).Free k := fun h => List.mem_map.mpr ⟨k, h, rfl⟩

lemma Free.insert {r : Record S} {k : κ} (h : r.Free k) (hne : k ≠ p.1) : (r.insert p).Free k := by
  intro hk
  cases hother : S.isOther p with
  | true =>
      rw [insert_of_isOther r hother]
      exact h hk
  | false =>
      rw [insert_of_not_isOther r hother]
      exact List.mem_map.mpr ⟨(k, none), h hk, if_neg hne⟩

/-- **A step of reading**: a property that fits, and that is the first of its name, is written again. -/
lemma entries_insert_perm (hfits : S.fits p = true) (hfree : r.Free p.1) :
    (r.insert p).entries.Perm (r.entries ++ [p]) := by
  cases hother : S.isOther p with
  | true =>
      rw [insert_of_isOther r hother, entries, entries, List.append_assoc]
  | false =>
      obtain ⟨a, b, hsplit⟩ := List.append_of_mem (hfree (mem_names_of_isOther hother))
      have hnodup := r.nodup_typed
      rw [hsplit] at hnodup
      have hnew : (r.set p).typed = a ++ (p.1, some p.2) :: b := by
        rw [typed_set, hsplit, OrderedMap.replace_middle hnodup, taken, if_pos hfits]
      have hwritten : (r.insert p).entries = present a ++ p :: (present b ++ r.extra) := by
        rw [insert_of_not_isOther r hother, entries, hnew, present_append, List.append_assoc]
        rfl
      have hold : r.entries = present a ++ (present b ++ r.extra) := by
        rw [entries, hsplit, present_append, List.append_assoc]
        rfl
      rw [hwritten, hold]
      exact List.perm_middle.trans (List.perm_append_singleton _ _).symm

/-- Properties of distinct names that fit are all written again. -/
lemma entries_foldl_perm (hnodup : (ps.map Prod.fst).Nodup) (hfits : ∀ p ∈ ps, S.fits p = true)
    (hfree : ∀ p ∈ ps, r.Free p.1) : (ps.foldl insert r).entries.Perm (r.entries ++ ps) := by
  induction ps generalizing r with
  | nil => rw [List.append_nil, List.foldl_nil]
  | cons p ps ih =>
      rw [List.map_cons, List.nodup_cons] at hnodup
      have hlater : ∀ q ∈ ps, (r.insert p).Free q.1 := by
        intro q hq
        refine (hfree q (List.mem_cons_of_mem _ hq)).insert ?_
        rintro heq
        exact hnodup.1 (heq ▸ List.mem_map_of_mem hq)
      have hrest := ih (r.insert p) hnodup.2 (fun q hq => hfits q (List.mem_cons_of_mem _ hq)) hlater
      have hstep := r.entries_insert_perm (hfits p List.mem_cons_self) (hfree p List.mem_cons_self)
      rw [List.foldl_cons, List.append_cons]
      exact hrest.trans (hstep.append_right ps)

lemma entries_empty : (empty S).entries = [] := by
  rw [entries, empty, List.append_nil]
  exact List.eq_nil_iff_forall_not_mem.mpr fun p hp => by simpa using mem_present.mp hp

/-! ### Records come back -/

/-- The fields are read one after the other. -/
lemma foldl_present (hother : ∀ p ∈ present r.typed, S.isOther p = false) :
    ((present r.typed).foldl insert (empty S)).typed = r.typed := by
  have hrow : ∀ (todo done : List (κ × Option ν)) (s : Record S), done ++ todo = r.typed →
      s.typed = done ++ todo.map (fun e => (e.1, none)) →
      ((present todo).foldl insert s).typed = r.typed := by
    intro todo
    induction todo with
    | nil =>
        intro done s hall hs
        rw [List.append_nil] at hall
        rw [← hall]
        exact hs.trans (List.append_nil done)
    | cons e todo ih =>
        intro done s hall hs
        obtain ⟨k, _ | v⟩ := e
        · refine ih (done ++ [(k, none)]) s (by rw [← hall, List.append_assoc]; rfl) ?_
          rw [hs, List.append_assoc]
          rfl
        · have hmem : (k, v) ∈ present r.typed := by
            rw [mem_present, ← hall]
            exact List.mem_append_right _ List.mem_cons_self
          have hnodup := s.nodup_typed
          rw [hs, List.map_cons] at hnodup
          refine ih (done ++ [(k, some v)]) (s.insert (k, v))
            (by rw [← hall, List.append_assoc]; rfl) ?_
          rw [insert_of_not_isOther s (hother _ hmem), typed_set, hs, List.map_cons,
            OrderedMap.replace_middle hnodup, taken, if_pos (r.fits _ hmem), List.append_assoc]
          rfl
  refine hrow r.typed [] (empty S) rfl ?_
  show S.names.map (fun k => (k, none)) = [] ++ r.typed.map fun e => (e.1, none)
  rw [List.nil_append, ← r.names, List.map_map]
  rfl

/-- A value that its field takes is not kept with the others. -/
lemma isOther_of_mem_present (h : p ∈ present r.typed) : S.isOther p = false := by
  have hname : p.1 ∈ S.names := by
    rw [← r.names]
    exact List.mem_map_of_mem (mem_present.mp h)
  have hfits := r.fits p h
  cases hfind : S.fields.find? fun f => f.1 = p.1 with
  | none =>
      obtain ⟨f, hf, heq⟩ := List.mem_map.mp hname
      simpa [heq] using List.find?_eq_none.mp hfind f hf
  | some f =>
      rw [Schema.fits, hfind] at hfits
      rw [isOther, hfind]
      simp [hfits]

/-- **Records come back**: what is written for a record is read as the record, if its other properties
are ones that are kept with the others. -/
theorem ofEntries_entries (h : ∀ p ∈ r.extra, S.isOther p = true) : ofEntries S r.entries = r := by
  have hnone : (present r.typed).filter S.isOther = [] := by
    refine List.filter_eq_nil_iff.mpr fun p hp => ?_
    rw [r.isOther_of_mem_present hp]
    exact Bool.false_ne_true
  rw [ofEntries, entries, List.foldl_append, foldl_insert_others _ h]
  ext1
  · exact r.foldl_present fun p hp => r.isOther_of_mem_present hp
  · simp only [extra_foldl, hnone]
    rfl

/-! ### Lossless reading -/

section Drop

variable (hdrop : S.keepsMisfits = false)

include hdrop

/-- Everything that is written fits. -/
lemma fits_of_mem_ofEntries (h : p ∈ (ofEntries S ps).entries) : S.fits p = true := by
  rcases List.mem_append.mp h with htyped | hextra
  · exact Record.fits _ p htyped
  · rw [ofEntries, extra_foldl] at hextra
    exact fits_of_not_mem ((isOther_iff hdrop).mp (List.of_mem_filter hextra))

/-- Each name is written once. -/
lemma nodup_entries_ofEntries (hnodup : (ps.map Prod.fst).Nodup) :
    ((ofEntries S ps).entries.map Prod.fst).Nodup := by
  have hextra : (ofEntries S ps).extra = ps.filter S.isOther := by
    rw [ofEntries, extra_foldl]
    rfl
  rw [entries, hextra, List.map_append, List.nodup_append]
  refine ⟨(nodup_typed _).sublist (present_sublist _), hnodup.sublist (List.filter_sublist.map _),
    fun k hk k' hk' heq => ?_⟩
  obtain ⟨p, hp, rfl⟩ := List.mem_map.mp hk'
  refine (isOther_iff hdrop).mp (List.of_mem_filter hp) ?_
  rw [← heq, ← (ofEntries S ps).names]
  exact (present_sublist _).subset hk

/-- The properties without a field keep their order. -/
lemma filter_entries_ofEntries :
    (ofEntries S ps).entries.filter (fun p => p.1 ∉ S.names) = ps.filter fun p => p.1 ∉ S.names := by
  have hother : (fun p : κ × ν => decide (p.1 ∉ S.names)) = S.isOther := by
    funext p
    rw [Bool.eq_iff_iff, decide_eq_true_eq, isOther_iff hdrop]
  have hnone : (present (ofEntries S ps).typed).filter S.isOther = [] := by
    refine List.filter_eq_nil_iff.mpr fun p hp => ?_
    rw [isOther_of_mem_present _ hp]
    exact Bool.false_ne_true
  rw [hother, entries, List.filter_append, hnone, List.nil_append, ofEntries, extra_foldl]
  rw [empty, List.nil_append, List.filter_filter]
  simp

/-- **Lossless reading**: if misfits are dropped, the properties of an object are written again if and
only if all of them fit. -/
theorem mem_entries_ofEntries_iff (hnodup : (ps.map Prod.fst).Nodup) :
    (∀ p, p ∈ (ofEntries S ps).entries ↔ p ∈ ps) ↔ ∀ p ∈ ps, S.fits p = true := by
  constructor
  · exact fun h p hp => fits_of_mem_ofEntries hdrop ((h p).mpr hp)
  · intro h p
    have hperm := (empty S).entries_foldl_perm hnodup h fun p _ => free_empty p.1
    rw [entries_empty, List.nil_append] at hperm
    exact hperm.mem_iff

end Drop

end Record

end Schema
