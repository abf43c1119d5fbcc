import Rtmp.Amf.RoundTrip

/-!
AMF0 packets with references.

The decoder's reference table has one entry for each container that is written out, in the order they
are opened.  `Packs` is an encoder that follows this rule: wherever a container stands that equals one
already written out and closed in the same packet, it may write the index of that one instead.

* `Packs`: what the encoder may write, with the table it keeps and the depth it writes to;
* `Agrees`: the decoder's table knows what the encoder's does;
* `Packs.reads`: what it writes is in the grammar and keeps the two tables in step;
* `decodeAll_packs` (**references**): the packet decodes to the values, however many references stand
  in it.
-/

namespace Rtmp.Amf

open Amf0Value

/-- The encoder's table: the containers written out so far; one that is still open has no value. -/
abbrev PackTable := List (Option Amf0Value)

/-- `Packs table form bs depth table'`: with `table` known, `bs` is a writing of `form` that leaves
`table'`; `depth` is the height of what is written out, a reference counting as a scalar. -/
inductive Packs : PackTable → Form → List UInt8 → ℕ → PackTable → Prop
  | scalar {table v} (h : v.complexes = []) : Packs table (.value v) (encode v) 1 table
  | reference {table v idx} (hidx : idx < 2 ^ 16) (h : table[idx]? = some (some v)) :
      Packs table (.value v) (0x07 :: Bytes.toBe 2 idx) 1 table
  | object {table ps bs depth table'} (h : Packs (table ++ [none]) (.body ps) bs depth table') :
      Packs table (.value (.object ps)) (0x03 :: bs) (depth + 1)
        (table'.set table.length (some (.object ps)))
  | ecmaArray {table ps bs depth table'} (h : Packs (table ++ [none]) (.body ps) bs depth table') :
      Packs table (.value (.ecmaArray ps)) (0x08 :: (Bytes.toBe 4 ps.length ++ bs)) (depth + 1)
        (table'.set table.length (some (.ecmaArray ps)))
  | typedObject {table className ps bs depth table'}
      (h : Packs (table ++ [none]) (.body ps) bs depth table') :
      Packs table (.value (.typedObject className ps)) (0x10 :: (writeUtf8Short className ++ bs))
        (depth + 1) (table'.set table.length (some (.typedObject className ps)))
  | strictArray {table vs bs depth table'}
      (h : Packs (table ++ [none]) (.items vs) bs depth table') :
      Packs table (.value (.strictArray vs)) (0x0A :: (Bytes.toBe 4 vs.length ++ bs)) (depth + 1)
        (table'.set table.length (some (.strictArray vs)))
  | objectEnd {table} : Packs table (.body []) (writeUtf8Short "" ++ [0x09]) 0 table
  | property {table k v ps bs depth table' bs' depth' table''}
      (hv : Packs table (.value v) bs depth table')
      (hps : Packs table' (.body ps) bs' depth' table'') :
      Packs table (.body ((k, v) :: ps)) (writeUtf8Short k ++ (bs ++ bs')) (max depth depth') table''
  | noItem {table} : Packs table (.items []) [] 0 table
  | item {table v vs bs depth table' bs' depth' table''}
      (hv : Packs table (.value v) bs depth table')
      (hvs : Packs table' (.items vs) bs' depth' table'') :
      Packs table (.items (v :: vs)) (bs ++ bs') (max depth depth') table''

/-- The format can carry a form. -/
def Form.Encodable : Form → Prop
  | .value v => v.Encodable
  | .body ps => EncodablePairs ps
  | .items vs => EncodableList vs

/-- The decoder's table has an entry for each of the encoder's, and the value of every closed one. -/
structure Agrees (table : PackTable) (refs : RefTable) : Prop where
  length : refs.length = table.length
  closed : ∀ (idx : ℕ) (v : Amf0Value), table[idx]? = some (some v) → refs[idx]? = some v

namespace Agrees

variable {table : PackTable} {refs : RefTable}

lemma nil : Agrees [] [] := ⟨rfl, fun _ _ h => by simp at h⟩

/-- A container is opened. -/
lemma push (h : Agrees table refs) (empty : Amf0Value) :
    Agrees (table ++ [none]) (refs ++ [empty]) where
  length := by rw [List.length_append, List.length_append, h.length]; rfl
  closed idx v hidx := by
    rcases Nat.lt_or_ge idx table.length with hlt | hge
    · rw [List.getElem?_append_left hlt] at hidx
      rw [List.getElem?_append_left (h.length ▸ hlt)]
      exact h.closed idx v hidx
    · rw [List.getElem?_append_right hge, List.getElem?_singleton] at hidx
      split_ifs at hidx
      cases hidx

/-- A container is closed. -/
lemma fill (h : Agrees table refs) (slot : ℕ) (v : Amf0Value) :
    Agrees (table.set slot (some v)) (refs.set slot v) where
  length := by rw [List.length_set, List.length_set, h.length]
  closed idx w hidx := by
    rw [List.getElem?_set] at hidx ⊢
    rw [h.length]
    split_ifs at hidx ⊢ with heq hlt
    · cases hidx
      rfl
    · exact h.closed idx w hidx

end Agrees

/-- What the encoder writes is in the grammar and keeps the tables in step. -/
theorem Packs.reads {table table' : PackTable} {form : Form} {bs : List UInt8} {depth : ℕ}
    (h : Packs table form bs depth table') :
    ∀ {room refs u}, form.Encodable → Agrees table refs → depth ≤ room →
      ∃ refs', Reads room refs (bs ++ u) form refs' u ∧ Agrees table' refs' := by
  induction h with
  | scalar h =>
      intro room refs u henc hagrees hroom
      have hreads : Reads _ refs _ _ _ u := reads_encode _ (Encodable.spellable _ henc)
        ((height_of_complexes h).trans_le hroom)
      rw [h, List.append_nil] at hreads
      exact ⟨refs, hreads, hagrees⟩
  | reference hidx h =>
      intro room refs u henc hagrees hroom
      obtain ⟨room, rfl⟩ := Nat.exists_eq_add_of_le' hroom
      exact ⟨refs, .reference hidx (hagrees.closed _ _ h), hagrees⟩
  | object _ ih =>
      intro room refs u henc hagrees hroom
      -- the container takes its slot before its members are read, and fills it after them
      obtain ⟨room, rfl⟩ := Nat.exists_eq_add_of_le' (Nat.le_of_add_left_le hroom)
      obtain ⟨refs', hreads, hagrees'⟩ :=
        ih henc (hagrees.push _) (Nat.le_of_succ_le_succ hroom)
      rw [← List.singleton_append, List.append_assoc]
      exact ⟨_, .container .object hreads, hagrees.length ▸ hagrees'.fill refs.length _⟩
  | ecmaArray _ ih =>
      intro room refs u henc hagrees hroom
      obtain ⟨room, rfl⟩ := Nat.exists_eq_add_of_le' (Nat.le_of_add_left_le hroom)
      obtain ⟨refs', hreads, hagrees'⟩ :=
        ih henc.2 (hagrees.push _) (Nat.le_of_succ_le_succ hroom)
      rw [← List.cons_append, List.append_assoc]
      exact ⟨_, .container (.ecmaArray henc.1) hreads, hagrees.length ▸ hagrees'.fill refs.length _⟩
  | typedObject _ ih =>
      intro room refs u henc hagrees hroom
      obtain ⟨room, rfl⟩ := Nat.exists_eq_add_of_le' (Nat.le_of_add_left_le hroom)
      obtain ⟨refs', hreads, hagrees'⟩ :=
        ih henc.2 (hagrees.push _) (Nat.le_of_succ_le_succ hroom)
      rw [← List.cons_append, List.append_assoc]
      exact ⟨_, .container (.typedObject (Nat.lt_succ_of_le henc.1)) hreads,
        hagrees.length ▸ hagrees'.fill refs.length _⟩
  | strictArray _ ih =>
      intro room refs u henc hagrees hroom
      obtain ⟨room, rfl⟩ := Nat.exists_eq_add_of_le' (Nat.le_of_add_left_le hroom)
      obtain ⟨refs', hreads, hagrees'⟩ :=
        ih henc.2 (hagrees.push _) (Nat.le_of_succ_le_succ hroom)
      rw [List.cons_append, List.append_assoc]
      exact ⟨_, .strictArray henc.1 hreads, hagrees.length ▸ hagrees'.fill refs.length _⟩
  | objectEnd =>
      intro room refs u henc hagrees hroom
      rw [List.append_assoc]
      exact ⟨refs, .objectEnd, hagrees⟩
  | property _ _ ihv ihps =>
      intro room refs u henc hagrees hroom
      obtain ⟨⟨hk, hlen⟩, hv, hps⟩ := henc
      -- a member and those behind it share the room, not the table
      obtain ⟨hroomv, hroomps⟩ := max_le_iff.mp hroom
      obtain ⟨refs', hreadsv, hagrees'⟩ := ihv hv hagrees hroomv
      obtain ⟨refs'', hreadsps, hagrees''⟩ := ihps hps hagrees' hroomps
      rw [List.append_assoc, List.append_assoc]
      exact ⟨refs'', .property hk (Nat.lt_succ_of_le hlen) hreadsv hreadsps, hagrees''⟩
  | noItem =>
      intro room refs u henc hagrees hroom
      exact ⟨refs, .noItem, hagrees⟩
  | item _ _ ihv ihvs =>
      intro room refs u henc hagrees hroom
      obtain ⟨hv, hvs⟩ := henc
      obtain ⟨hroomv, hroomvs⟩ := max_le_iff.mp hroom
      obtain ⟨refs', hreadsv, hagrees'⟩ := ihv hv hagrees hroomv
      obtain ⟨refs'', hreadsvs, hagrees''⟩ := ihvs hvs hagrees' hroomvs
      rw [List.append_assoc]
      exact ⟨refs'', .item hreadsv hreadsvs, hagrees''⟩

/-- **References**: a packet in which containers already written out are replaced by references
decodes to the values in full. -/
theorem decodeAll_packs {vs : List Amf0Value} {bs : List UInt8} {depth : ℕ} {table : PackTable}
    (hvs : ∀ v ∈ vs, v.Encodable) (h : Packs [] (.items vs) bs depth table)
    (hdepth : depth ≤ maxDecodeDepth) : decodeAll bs = .ok vs := by
  obtain ⟨refs', hreads, -⟩ := h.reads (u := []) (encodableList_of_forall hvs) .nil hdepth
  rw [List.append_nil] at hreads
  exact decodeAll_iff.mpr ⟨refs', hreads⟩

/-- An array, and an object in which it stands a second time as a reference. -/
theorem decodeAll_packs_shared :
    decodeAll [0x0A, 0, 0, 0, 1, 0x05, 0x03, 0, 1, 0x61, 0x07, 0, 0, 0, 0, 0x09]
      = .ok [.strictArray [.null], .object [("a", .strictArray [.null])]] := by
  have hfirst : Packs [] (.value (.strictArray [.null])) _ _ _ :=
    .strictArray (.item (.scalar rfl) .noItem)
  have hshared : Packs [some (.strictArray [.null]), none] (.value (.strictArray [.null]))
      (0x07 :: Bytes.toBe 2 0) 1 _ := .reference (by decide) rfl
  have hsecond : Packs [some (.strictArray [.null])]
      (.value (.object [("a", .strictArray [.null])])) _ _ _ :=
    .object (.property hshared .objectEnd)
  refine decodeAll_packs ?_
    (.item hfirst (.item hsecond .noItem)) (by decide)
  intro v hv
  rcases List.mem_pair.mp hv with rfl | rfl
  · exact ⟨by decide, trivial, trivial⟩
  · exact ⟨⟨by decide, by decide⟩, ⟨by decide, trivial, trivial⟩, trivial⟩

end Rtmp.Amf
