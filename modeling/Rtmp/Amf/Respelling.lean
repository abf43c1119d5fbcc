import Rtmp.Amf.RoundTrip

/-!
Which decoded values survive being encoded again.

* `spellable_of_reads`: a value that is read from its own encoding can be spelled, and nests no
  deeper than there is room;
* `decodeAll_encodeItems_iff`: a row of values is read back exactly when each of them can be spelled
  and nests at most `maxDecodeDepth` levels deep;
* `respell_iff` (**re-encoding**): this for the values of a packet, which references and embedded AMF3
  values can make too deep, or give names that no AMF0 key can be.
-/

namespace Rtmp.Amf

open Amf0Value

/-! ### A value from its own encoding -/

section Inversion

variable {room : ℕ} {refs refs' : RefTable} {u u' bs : List UInt8} {v : Amf0Value}

lemma Scalar.spellable (h : Scalar v bs) : v.Spellable := by
  cases h with
  | string h =>
      rw [Spellable]
      exact h.trans (by norm_num)
  | longString h => exact h
  | xmlDocument h => exact h
  | _ => trivial

lemma Scalar.complexes_eq (h : Scalar v bs) : v.complexes = [] := by
  cases h <;> rfl

/-- An encoding neither is a reference nor switches to AMF3. -/
lemma encode_marker (v : Amf0Value) :
    ∃ marker rest, encode v = marker :: rest ∧ marker ≠ 0x07 ∧ marker ≠ 0x11 := by
  cases v with
  | string s =>
      rw [encode]
      split_ifs
      · exact ⟨_, _, rfl, by decide, by decide⟩
      · exact ⟨_, _, rfl, by decide, by decide⟩
  | _ => exact ⟨_, _, by rw [encode], by decide, by decide⟩

/-- A value is read from its own encoding as a scalar, or as a container in front of its members. -/
lemma reads_encode_cases (h : Reads room refs (encode v ++ u) (.value v) refs' u') :
    ∃ inner, room = inner + 1 ∧
      ((∃ bs, Scalar v bs) ∨
        (∃ make bs ps w refs₁ refs₂, Head make bs ∧ v = make ps ∧ encode v ++ u = bs ++ w ∧
          Reads inner refs₁ w (.body ps) refs₂ u') ∨
        ∃ vs w refs₁ refs₂, v = .strictArray vs ∧ vs.length < 256 ^ 4 ∧
          encode v ++ u = 0x0A :: (Bytes.toBe 4 vs.length ++ w) ∧
          Reads inner refs₁ w (.items vs) refs₂ u') := by
  obtain ⟨marker, rest, hmarker, hseven, heleven⟩ := encode_marker v
  generalize hinput : encode v ++ u = input at h
  generalize hform : Form.value v = form at h
  cases h with
  | scalar h =>
      cases hform
      exact ⟨_, rfl, .inl ⟨_, h⟩⟩
  | reference =>
      -- the encoder writes neither references nor embedded values
      rw [hmarker, List.cons_append, List.cons.injEq] at hinput
      exact absurd hinput.1 hseven
  | avmplus =>
      rw [hmarker, List.cons_append, List.cons.injEq] at hinput
      exact absurd hinput.1 heleven
  | container hhead h =>
      cases hform
      exact ⟨_, rfl, .inr (.inl ⟨_, _, _, _, _, _, hhead, rfl, rfl, h⟩)⟩
  | strictArray hlen h =>
      cases hform
      exact ⟨_, rfl, .inr (.inr ⟨_, _, _, _, rfl, hlen, rfl, h⟩)⟩
  | _ => cases hform

/-- A scalar takes its own encoding. -/
lemma Scalar.rest_eq (h : Scalar v bs) (hreads : Reads room refs (encode v ++ u) (.value v) refs' u') :
    v.height ≤ room ∧ u' = u := by
  obtain ⟨inner, rfl, -⟩ := reads_encode_cases hreads
  have hheight := height_of_complexes h.complexes_eq
  have hself : Reads (inner + 1) refs (encode v ++ u) _ _ u :=
    reads_encode v h.spellable (by omega)
  have hrun := decode_iff.mpr hself
  rw [decode_iff.mpr hreads] at hrun
  exact ⟨by omega, (Prod.ext_iff.mp (Prod.ext_iff.mp hrun).2).1⟩

/-- The members of a container stand behind its own head. -/
lemma Head.rest_eq {make : List (String × Amf0Value) → Amf0Value} {ps : List (String × Amf0Value)}
    {w : List UInt8} (h : Head make bs) (hinput : encode (make ps) ++ u = bs ++ w) :
    w = writeObjectBody ps ++ u := by
  cases h with
  | object =>
      rw [encode, List.cons_append, List.singleton_append, List.cons.injEq] at hinput
      exact hinput.2.symm
  | ecmaArray h =>
      rw [encode, List.cons_append, List.cons_append, List.cons.injEq, List.append_assoc] at hinput
      exact (List.append_inj hinput.2 (by rw [Bytes.length_toBe, Bytes.length_toBe])).2.symm
  | typedObject h =>
      rw [encode, List.cons_append, List.cons_append, List.cons.injEq, List.append_assoc] at hinput
      exact (List.append_cancel_left hinput.2).symm

end Inversion

mutual

/-- **What reads itself back can be spelled**, fits the room there is, and takes its own bytes. -/
theorem spellable_of_reads {room : ℕ} {refs refs' : RefTable} {u u' : List UInt8} :
    ∀ v : Amf0Value, Reads room refs (encode v ++ u) (.value v) refs' u' →
      v.Spellable ∧ v.height ≤ room ∧ u' = u
  | .object ps, h => by
      obtain ⟨inner, rfl, ⟨bs, h⟩ | ⟨make, bs, qs, w, _, _, hhead, hmake, hinput, hbody⟩ | h⟩ :=
        reads_encode_cases h
      · cases h
      · -- of the heads only that of an object makes one
        cases hhead <;> cases hmake
        rw [Head.object.rest_eq hinput] at hbody
        obtain ⟨hps, hheight, hu⟩ := spellable_of_reads_body ps hbody
        exact ⟨hps, Nat.succ_le_succ hheight, hu⟩
      · obtain ⟨_, _, _, _, hv, -⟩ := h
        cases hv
  | .ecmaArray ps, h => by
      obtain ⟨inner, rfl, ⟨bs, h⟩ | ⟨make, bs, qs, w, _, _, hhead, hmake, hinput, hbody⟩ | h⟩ :=
        reads_encode_cases h
      · cases h
      · cases hhead with
        | ecmaArray hcount =>
            cases hmake
            rw [(Head.ecmaArray hcount).rest_eq hinput] at hbody
            obtain ⟨hps, hheight, hu⟩ := spellable_of_reads_body ps hbody
            exact ⟨hps, Nat.succ_le_succ hheight, hu⟩
        | _ => cases hmake
      · obtain ⟨_, _, _, _, hv, -⟩ := h
        cases hv
  | .typedObject className ps, h => by
      obtain ⟨inner, rfl, ⟨bs, h⟩ | ⟨make, bs, qs, w, _, _, hhead, hmake, hinput, hbody⟩ | h⟩ :=
        reads_encode_cases h
      · cases h
      · cases hhead with
        | typedObject hname =>
            cases hmake
            rw [(Head.typedObject hname).rest_eq hinput] at hbody
            obtain ⟨hps, hheight, hu⟩ := spellable_of_reads_body ps hbody
            exact ⟨⟨Nat.le_of_lt_succ hname, hps⟩, Nat.succ_le_succ hheight, hu⟩
        | _ => cases hmake
      · obtain ⟨_, _, _, _, hv, -⟩ := h
        cases hv
  | .strictArray vs, h => by
      obtain ⟨inner, rfl, ⟨bs, h⟩ | h | ⟨ws, w, _, _, hv, hlen, hinput, hitems⟩⟩ :=
        reads_encode_cases h
      · cases h
      · obtain ⟨_, _, _, _, _, _, hhead, hmake, -⟩ := h
        cases hhead <;> cases hmake
      · cases hv
        rw [encode, List.cons_append, List.cons.injEq, List.append_assoc] at hinput
        rw [← List.append_cancel_left hinput.2] at hitems
        obtain ⟨hvs, hheight, hu⟩ := spellable_of_reads_items vs hitems
        exact ⟨⟨hlen, hvs⟩, Nat.succ_le_succ hheight, hu⟩
  | .number _, h | .boolean _, h | .string _, h | .null, h | .undefined, h | .date _ _, h
  | .unsupported, h | .xmlDocument _, h => by
      obtain ⟨inner, rfl, ⟨bs, hs⟩ | hc | hc⟩ := reads_encode_cases h
      · exact ⟨hs.spellable, hs.rest_eq h⟩
      · obtain ⟨_, _, _, _, _, _, hhead, hmake, -⟩ := hc
        cases hhead <;> cases hmake
      · obtain ⟨_, _, _, _, hv, -⟩ := hc
        cases hv

/-- So can the members of an object body. -/
theorem spellable_of_reads_body {room : ℕ} {refs refs' : RefTable} {u u' : List UInt8} :
    ∀ ps : List (String × Amf0Value), Reads room refs (writeObjectBody ps ++ u) (.body ps) refs' u' →
      SpellablePairs ps ∧ heightPairs ps ≤ room ∧ u' = u
  | [], h => by
      generalize hinput : writeObjectBody [] ++ u = input at h
      cases h with
      | objectEnd =>
          have hend : writeObjectBody [] = writeUtf8Short "" ++ [0x09] := by decide +kernel
          rw [hend, List.append_assoc] at hinput
          exact ⟨trivial, Nat.zero_le _, (List.cons.inj (List.append_cancel_left hinput)).2.symm⟩
  | (k, v) :: ps, h => by
      generalize hinput : writeObjectBody ((k, v) :: ps) ++ u = input at h
      cases h with
      | property hk hlen hv hps =>
          rw [writeObjectBody, List.append_assoc, List.append_assoc] at hinput
          rw [← List.append_cancel_left hinput] at hv
          obtain ⟨hspell, hheight, hu⟩ := spellable_of_reads v hv
          rw [hu] at hps
          obtain ⟨hspells, hheights, hu'⟩ := spellable_of_reads_body ps hps
          exact ⟨⟨⟨hk, Nat.le_of_lt_succ hlen⟩, hspell, hspells⟩, max_le hheight hheights, hu'⟩

/-- So can values in a row. -/
theorem spellable_of_reads_items {room : ℕ} {refs refs' : RefTable} {u u' : List UInt8} :
    ∀ vs : List Amf0Value, Reads room refs (encodeItems vs ++ u) (.items vs) refs' u' →
      SpellableList vs ∧ heightList vs ≤ room ∧ u' = u
  | [], h => by
      cases h with
      | noItem => exact ⟨trivial, Nat.zero_le _, rfl⟩
  | v :: vs, h => by
      generalize hinput : encodeItems (v :: vs) ++ u = input at h
      cases h with
      | item hv hvs =>
          rw [encodeItems, List.append_assoc] at hinput
          rw [← hinput] at hv
          obtain ⟨hspell, hheight, hu⟩ := spellable_of_reads v hv
          rw [hu] at hvs
          obtain ⟨hspells, hheights, hu'⟩ := spellable_of_reads_items vs hvs
          exact ⟨⟨hspell, hspells⟩, max_le hheight hheights, hu'⟩

end

/-! ### Packets -/

/-- A row of values is read back exactly when each can be spelled and none nests too deep. -/
theorem decodeAll_encodeItems_iff {vs : List Amf0Value} :
    decodeAll (encodeItems vs) = .ok vs ↔ ∀ v ∈ vs, v.Spellable ∧ v.height ≤ maxDecodeDepth := by
  refine ⟨fun h => ?_, decodeAll_of_spellable⟩
  obtain ⟨refs', hreads⟩ := decodeAll_iff.mp h
  rw [← List.append_nil (encodeItems vs)] at hreads
  obtain ⟨hspell, hheight, -⟩ := spellable_of_reads_items vs hreads
  exact fun v hv => ⟨spellableList_iff.mp hspell v hv, heightList_le_iff.mp hheight v hv⟩

/-- Decode a packet, encode its values inline and decode them again. -/
def respell (buf : List UInt8) : Except Error (List Amf0Value) := do
  let vs ← decodeAll buf
  decodeAll (encodeItems vs)

/-- **Re-encoding**: what a packet decodes to is decoded from its encoding again exactly when its
names are not empty and no longer than a key can be, its lengths fit their fields, and its values
nest at most `maxDecodeDepth` levels deep. -/
theorem respell_iff {buf : List UInt8} {vs : List Amf0Value} (h : decodeAll buf = .ok vs) :
    respell buf = .ok vs ↔ ∀ v ∈ vs, v.Spellable ∧ v.height ≤ maxDecodeDepth := by
  have hrespell : respell buf = decodeAll (encodeItems vs) := by
    rw [respell, h]
    rfl
  rw [hrespell, decodeAll_encodeItems_iff]

/-- An array and a reference to it survive as two arrays. -/
theorem respell_shared :
    respell [0x0A, 0, 0, 0, 1, 0x05, 0x07, 0, 0]
      = .ok [.strictArray [.null], .strictArray [.null]] := by
  refine (respell_iff rfl).mpr fun v hv => ?_
  rcases List.mem_pair.mp hv with rfl | rfl <;>
  exact ⟨⟨by decide, trivial, trivial⟩, by decide⟩

/-- A dictionary with an empty key comes out of the AMF3 bridge, and cannot go back. -/
theorem respell_emptyKey :
    decodeAll [0x11, 0x11, 0x03, 0x00, 0x06, 0x01, 0x01] = .ok [.ecmaArray [("", .null)]] ∧
      respell [0x11, 0x11, 0x03, 0x00, 0x06, 0x01, 0x01]
        = .error (.invalidAmf0 "expected OBJECT_END (0x09) after empty key, got 0x5") :=
  ⟨rfl, rfl⟩

end Rtmp.Amf
