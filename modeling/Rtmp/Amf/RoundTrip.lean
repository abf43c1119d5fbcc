import Rtmp.Amf.Grammar

/-!
Encoding and decoding AMF0.

* `Amf0Value.Encodable`: the values whose lengths the format can carry; `Amf0Value.Spellable`: the
  same, but for the count of an ECMA array, which nobody reads;
* `Amf0Value.complexes`: the entries a value leaves in the reference table;
* `reads_encode`: an encoded value is in the grammar, wherever it stands;
* `decode_encode`: a decode started at an encoded value returns it and stops at its end;
* `decodeAll_encodeItems` (**round trip**): a row of encoded values decodes to that row.
-/

namespace Rtmp

namespace Amf0Value

/-- A key that the format can carry. -/
def Key (k : String) : Prop := k ≠ "" ∧ (Utf8.encode k).length ≤ 65535

instance (k : String) : Decidable (Key k) := inferInstanceAs (Decidable (_ ∧ _))

mutual

/-- The keys are non-empty, and no string or array is longer than its length field can say. -/
def Encodable : Amf0Value → Prop
  | string s | xmlDocument s => (Utf8.encode s).length < 2 ^ 32
  | object ps => EncodablePairs ps
  | ecmaArray ps => ps.length < 2 ^ 32 ∧ EncodablePairs ps
  | strictArray vs => vs.length < 2 ^ 32 ∧ EncodableList vs
  | typedObject className ps => (Utf8.encode className).length ≤ 65535 ∧ EncodablePairs ps
  | _ => True

def EncodablePairs : List (String × Amf0Value) → Prop
  | [] => True
  | (k, v) :: ps =>
      (k ≠ "" ∧ (Utf8.encode k).length ≤ 65535) ∧ Encodable v ∧ EncodablePairs ps

def EncodableList : List Amf0Value → Prop
  | [] => True
  | v :: vs => Encodable v ∧ EncodableList vs

end

mutual

/-- The keys are non-empty, and every length that is read back fits its field. -/
def Spellable : Amf0Value → Prop
  | string s | xmlDocument s => (Utf8.encode s).length < 2 ^ 32
  | object ps | ecmaArray ps => SpellablePairs ps
  | strictArray vs => vs.length < 2 ^ 32 ∧ SpellableList vs
  | typedObject className ps => (Utf8.encode className).length ≤ 65535 ∧ SpellablePairs ps
  | _ => True

def SpellablePairs : List (String × Amf0Value) → Prop
  | [] => True
  | (k, v) :: ps =>
      (k ≠ "" ∧ (Utf8.encode k).length ≤ 65535) ∧ Spellable v ∧ SpellablePairs ps

def SpellableList : List Amf0Value → Prop
  | [] => True
  | v :: vs => Spellable v ∧ SpellableList vs

end

mutual

lemma Encodable.spellable : ∀ v : Amf0Value, v.Encodable → v.Spellable
  | string _, h | xmlDocument _, h => h
  | object ps, h => EncodablePairs.spellable ps h
  | ecmaArray ps, h => EncodablePairs.spellable ps h.2
  | strictArray vs, h => ⟨h.1, EncodableList.spellable vs h.2⟩
  | typedObject _ ps, h => ⟨h.1, EncodablePairs.spellable ps h.2⟩
  | number _, _ | boolean _, _ | null, _ | undefined, _ | date _ _, _ | unsupported, _ => trivial

lemma EncodablePairs.spellable : ∀ ps : List (String × Amf0Value), EncodablePairs ps → SpellablePairs ps
  | [], _ => trivial
  | (_, v) :: ps, h => ⟨h.1, Encodable.spellable v h.2.1, EncodablePairs.spellable ps h.2.2⟩

lemma EncodableList.spellable : ∀ vs : List Amf0Value, EncodableList vs → SpellableList vs
  | [], _ => trivial
  | v :: vs, h => ⟨Encodable.spellable v h.1, EncodableList.spellable vs h.2⟩

end

mutual

/-- The containers a value is made of, each before those inside it. -/
def complexes : Amf0Value → List Amf0Value
  | object ps => object ps :: complexesPairs ps
  | ecmaArray ps => ecmaArray ps :: complexesPairs ps
  | strictArray vs => strictArray vs :: complexesList vs
  | typedObject className ps => typedObject className ps :: complexesPairs ps
  | _ => []

def complexesPairs : List (String × Amf0Value) → List Amf0Value
  | [] => []
  | (_, v) :: ps => complexes v ++ complexesPairs ps

def complexesList : List Amf0Value → List Amf0Value
  | [] => []
  | v :: vs => complexes v ++ complexesList vs

end

end Amf0Value

namespace Amf

open Amf0Value

/-- A value without members counts one. -/
lemma height_of_complexes {v : Amf0Value} (h : v.complexes = []) : v.height = 1 := by
  cases v <;> first | rfl | cases h

/-- The slot of a container holds it once its members have been read. -/
lemma set_slot (refs members : List Amf0Value) (empty v : Amf0Value) :
    ((refs ++ [empty]) ++ members).set refs.length v = refs ++ v :: members := by
  rw [List.append_assoc, List.set_append_right _ _ (Nat.le_refl _), Nat.sub_self]
  rfl

/-- A container is in the grammar when its members are. -/
lemma reads_container {room : ℕ} {refs members : RefTable} {bs u u' : List UInt8}
    {make : List (String × Amf0Value) → Amf0Value} {ps : List (String × Amf0Value)}
    (hhead : Head make bs)
    (h : Reads room (refs ++ [make []]) u (.body ps) ((refs ++ [make []]) ++ members) u') :
    Reads (room + 1) refs (bs ++ u) (.value (make ps)) (refs ++ make ps :: members) u' := by
  rw [← set_slot refs members (make []) (make ps)]
  exact .container hhead h

/-- A scalar is in the grammar and leaves nothing in the table. -/
lemma reads_scalar {room : ℕ} {refs : RefTable} {bs u : List UInt8} {v : Amf0Value}
    (h : Scalar v bs) (hv : v.complexes = []) (hroom : 1 ≤ room) :
    Reads room refs (bs ++ u) (.value v) (refs ++ v.complexes) u := by
  obtain ⟨room, rfl⟩ := Nat.exists_eq_add_of_le' hroom
  rw [hv, List.append_nil]
  exact .scalar h

mutual

/-- An encoded value is in the grammar, with any input after it and any table before it. -/
theorem reads_encode {room : ℕ} {refs : RefTable} {u : List UInt8} :
    ∀ v : Amf0Value, v.Spellable → v.height ≤ room →
      Reads room refs (encode v ++ u) (.value v) (refs ++ v.complexes) u
  | .number n, _, hroom => reads_scalar (.number n.bits) rfl hroom
  | .boolean false, _, hroom => reads_scalar (.boolean 0) rfl hroom
  | .boolean true, _, hroom => reads_scalar (.boolean 1) rfl hroom
  | .string s, h, hroom => by
      rw [encode]
      split_ifs with hshort
      · exact reads_scalar (.string (Nat.lt_succ_of_le hshort)) rfl hroom
      · exact reads_scalar (.longString h) rfl hroom
  | .null, _, hroom => reads_scalar .null rfl hroom
  | .undefined, _, hroom => reads_scalar .undefined rfl hroom
  | .object ps, h, hroom => by
      obtain ⟨room, rfl⟩ := Nat.exists_eq_add_of_le' (Nat.le_of_add_left_le hroom)
      rw [encode, ← List.singleton_append, List.append_assoc]
      exact reads_container .object (reads_writeObjectBody ps h (Nat.le_of_succ_le_succ hroom))
  | .ecmaArray ps, h, hroom => by
      obtain ⟨room, rfl⟩ := Nat.exists_eq_add_of_le' (Nat.le_of_add_left_le hroom)
      -- the count is written modulo its field
      have hcount : ps.length % 256 ^ 4 < 256 ^ 4 := Nat.mod_lt _ (by norm_num)
      rw [encode, ← List.cons_append, List.append_assoc, ← Bytes.toBe_mod]
      exact reads_container (.ecmaArray hcount)
        (reads_writeObjectBody ps h (Nat.le_of_succ_le_succ hroom))
  | .strictArray vs, h, hroom => by
      obtain ⟨room, rfl⟩ := Nat.exists_eq_add_of_le' (Nat.le_of_add_left_le hroom)
      -- its slot stays empty until its items have been read
      rw [complexes, encode, List.cons_append, List.append_assoc,
        ← set_slot refs (complexesList vs) (.strictArray []) (.strictArray vs)]
      exact .strictArray h.1 (reads_encodeItems vs h.2 (Nat.le_of_succ_le_succ hroom))
  | .date millis timezone, _, hroom =>
      reads_scalar (.date millis.bits timezone.toUInt16) rfl hroom
  | .unsupported, _, hroom => reads_scalar .unsupported rfl hroom
  | .xmlDocument _, h, hroom => reads_scalar (.xmlDocument h) rfl hroom
  | .typedObject className ps, h, hroom => by
      obtain ⟨room, rfl⟩ := Nat.exists_eq_add_of_le' (Nat.le_of_add_left_le hroom)
      rw [encode, ← List.cons_append, List.append_assoc]
      exact reads_container (.typedObject (Nat.lt_succ_of_le h.1))
        (reads_writeObjectBody ps h.2 (Nat.le_of_succ_le_succ hroom))

/-- So is an encoded object body. -/
theorem reads_writeObjectBody {room : ℕ} {refs : RefTable} {u : List UInt8} :
    ∀ ps : List (String × Amf0Value), SpellablePairs ps → heightPairs ps ≤ room →
      Reads room refs (writeObjectBody ps ++ u) (.body ps) (refs ++ complexesPairs ps) u
  | [], _, _ => by
      rw [complexesPairs, List.append_nil]
      exact .objectEnd
  | (k, v) :: ps, h, hroom => by
      obtain ⟨⟨hk, hlen⟩, hv, hps⟩ := h
      obtain ⟨hroomv, hroomps⟩ := max_le_iff.mp hroom
      rw [complexesPairs, ← List.append_assoc, writeObjectBody, List.append_assoc,
        List.append_assoc]
      exact .property hk (Nat.lt_succ_of_le hlen) (reads_encode v hv hroomv)
        (reads_writeObjectBody ps hps hroomps)

/-- So are encoded values in a row. -/
theorem reads_encodeItems {room : ℕ} {refs : RefTable} {u : List UInt8} :
    ∀ vs : List Amf0Value, SpellableList vs → heightList vs ≤ room →
      Reads room refs (encodeItems vs ++ u) (.items vs) (refs ++ complexesList vs) u
  | [], _, _ => by
      rw [complexesList, List.append_nil]
      exact .noItem
  | v :: vs, h, hroom => by
      obtain ⟨hv, hvs⟩ := h
      obtain ⟨hroomv, hroomvs⟩ := max_le_iff.mp hroom
      rw [complexesList, ← List.append_assoc, encodeItems, List.append_assoc]
      exact .item (reads_encode v hv hroomv) (reads_encodeItems vs hvs hroomvs)

end

/-- A decode started at an encoded value returns it and stops at its end, whatever stands around
it. -/
theorem decode_encode {v : Amf0Value} (hv : v.Encodable) (hheight : v.height ≤ maxDecodeDepth)
    (before after : List UInt8) :
    decode (before ++ encode v ++ after) before.length
      = (.ok v, before.length + (encode v).length) := by
  have hreads : Reads _ [] (encode v ++ after) _ _ after := reads_encode v (hv.spellable v) hheight
  have hread := hreads.read
  have hdrop : (before ++ encode v ++ after).drop before.length = encode v ++ after := by
    rw [List.append_assoc, List.drop_left]
  have hrun : (decodeAtDepth maxDecodeDepth).run (encode v ++ after, [])
      = (.ok v, (after, [] ++ v.complexes)) := hread
  rw [decode, hdrop, hrun, List.length_append, Nat.add_sub_cancel]

lemma encodableList_of_forall {vs : List Amf0Value} (h : ∀ v ∈ vs, v.Encodable) :
    EncodableList vs := by
  induction vs with
  | nil => trivial
  | cons v vs ih =>
      exact ⟨h v List.mem_cons_self, ih fun w hw => h w (List.mem_cons_of_mem _ hw)⟩

lemma spellableList_iff {vs : List Amf0Value} : SpellableList vs ↔ ∀ v ∈ vs, v.Spellable := by
  induction vs with
  | nil => exact iff_of_true trivial fun v hv => absurd hv List.not_mem_nil
  | cons v vs ih => rw [SpellableList, ih, List.forall_mem_cons]

lemma encodablePairs_iff {ps : List (String × Amf0Value)} :
    EncodablePairs ps ↔ ∀ p ∈ ps, Key p.1 ∧ p.2.Encodable := by
  induction ps with
  | nil => exact iff_of_true trivial fun p hp => absurd hp List.not_mem_nil
  | cons p ps ih =>
      rw [EncodablePairs, ih, List.forall_mem_cons]
      exact and_assoc.symm

lemma heightPairs_le_iff {ps : List (String × Amf0Value)} {n : ℕ} :
    heightPairs ps ≤ n ↔ ∀ p ∈ ps, p.2.height ≤ n := by
  induction ps with
  | nil => exact iff_of_true (Nat.zero_le _) fun p hp => absurd hp List.not_mem_nil
  | cons p ps ih => rw [heightPairs, max_le_iff, ih, List.forall_mem_cons]

lemma heightList_le_iff {vs : List Amf0Value} {n : ℕ} :
    heightList vs ≤ n ↔ ∀ v ∈ vs, v.height ≤ n := by
  induction vs with
  | nil => exact iff_of_true (Nat.zero_le _) fun v hv => absurd hv List.not_mem_nil
  | cons v vs ih => rw [heightList, max_le_iff, ih, List.forall_mem_cons]

/-- A row of values that can be spelled decodes to that row. -/
lemma decodeAll_of_spellable {vs : List Amf0Value}
    (h : ∀ v ∈ vs, v.Spellable ∧ v.height ≤ maxDecodeDepth) : decodeAll (encodeItems vs) = .ok vs := by
  have hreads : Reads _ [] (encodeItems vs ++ []) _ _ [] := reads_encodeItems vs
    (spellableList_iff.mpr fun v hv => (h v hv).1) (heightList_le_iff.mpr fun v hv => (h v hv).2)
  rw [List.append_nil] at hreads
  exact decodeAll_iff.mpr ⟨_, hreads⟩

lemma encodeItems_append (vs ws : List Amf0Value) :
    encodeItems (vs ++ ws) = encodeItems vs ++ encodeItems ws := by
  induction vs with
  | nil => rfl
  | cons v vs ih => rw [List.cons_append, encodeItems, encodeItems, ih, List.append_assoc]

/-- **Round trip**: a row of encoded values decodes to that row, and a decode started at any of them
returns it and stops at its end. -/
theorem decodeAll_encodeItems (vs : List Amf0Value)
    (h : ∀ v ∈ vs, v.Encodable ∧ v.height ≤ maxDecodeDepth) :
    decodeAll (encodeItems vs) = .ok vs ∧
      ∀ before v after, vs = before ++ v :: after →
        decode (encodeItems vs) (encodeItems before).length
          = (.ok v, (encodeItems (before ++ [v])).length) := by
  constructor
  · exact decodeAll_of_spellable fun v hv => ⟨(h v hv).1.spellable v, (h v hv).2⟩
  · rintro before v after rfl
    obtain ⟨hv, hheight⟩ := h v (by simp)
    have hdecode := decode_encode hv hheight (encodeItems before) (encodeItems after)
    rw [encodeItems_append, encodeItems_append, encodeItems, encodeItems, encodeItems,
      List.append_nil, List.length_append, ← List.append_assoc]
    exact hdecode

/-- An object around an array, and a string after it. -/
theorem decodeAll_encodeItems_nested :
    let inner : Amf0Value := .object [("a", .strictArray [.null, .boolean true])]
    decodeAll (encodeItems [inner, .string "b"]) = .ok [inner, .string "b"]
      ∧ decode (encodeItems [inner, .string "b"]) (encodeItems [inner]).length
        = (.ok (.string "b"), (encodeItems [inner, .string "b"]).length) := by
  intro inner
  have hencodable : ∀ v ∈ [inner, .string "b"], v.Encodable ∧ v.height ≤ maxDecodeDepth := by
    intro v hv
    rcases List.mem_pair.mp hv with rfl | rfl
    · exact ⟨⟨⟨by decide, by decide⟩, ⟨by decide, trivial, trivial, trivial⟩, trivial⟩, by decide⟩
    · have hlen : (Utf8.encode "b").length < 2 ^ 32 := by decide
      exact ⟨hlen, by decide⟩
  obtain ⟨hall, hone⟩ := decodeAll_encodeItems [inner, .string "b"] hencodable
  exact ⟨hall, hone [inner] (.string "b") [] rfl⟩

end Amf

end Rtmp
