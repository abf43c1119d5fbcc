import Rtmp.Amf.Codec

/-!
The AMF0 grammar, and the decoder as its recogniser.

* `Scalar`, `Head`: the spellings of a value without members, and of what comes before the members
  of a container with named ones;
* `Reads`: between two places of the input and two states of the reference table stands a value, an
  object body or a row of items;
* `Reads.length_le`: how much input a form takes at least;
* `decode_iff` (**the decoder recognises the grammar**): a decode from a place succeeds with a value
  exactly when that value stands there;
* `decode_of_reads`: a value that stands at an offset is decoded;
* `decodeAll_iff`: a packet decodes to the row of values it is.
-/

namespace Rtmp.Amf

/-- What a stretch of input can spell. -/
inductive Form where
  | value (v : Amf0Value)
  | body (pairs : List (String × Amf0Value))
  | items (vs : List Amf0Value)

/-- The bytes of a value without members.  A boolean may be any byte, and a string may be long
without need. -/
inductive Scalar : Amf0Value → List UInt8 → Prop
  | number (bits : UInt64) : Scalar (.number ⟨bits⟩) (0x00 :: Bytes.toBe 8 bits.toNat)
  | boolean (b : UInt8) : Scalar (.boolean (decide (b ≠ 0))) [0x01, b]
  | string {s : String} (h : (Utf8.encode s).length < 256 ^ 2) :
      Scalar (.string s) (0x02 :: writeUtf8Short s)
  | longString {s : String} (h : (Utf8.encode s).length < 256 ^ 4) :
      Scalar (.string s) (0x0C :: writeUtf8Long s)
  | null : Scalar .null [0x05]
  | undefined : Scalar .undefined [0x06]
  | date (millis : UInt64) (timezone : UInt16) : Scalar (.date ⟨millis⟩ timezone.toInt16)
      (0x0B :: (Bytes.toBe 8 millis.toNat ++ Bytes.toBe 2 timezone.toNat))
  | unsupported : Scalar .unsupported [0x0D]
  | xmlDocument {s : String} (h : (Utf8.encode s).length < 256 ^ 4) :
      Scalar (.xmlDocument s) (0x0F :: writeUtf8Long s)

/-- The bytes before the members of a container, with the value the members make.  The count of an
ECMA array says nothing. -/
inductive Head : (List (String × Amf0Value) → Amf0Value) → List UInt8 → Prop
  | object : Head .object [0x03]
  | ecmaArray {count : ℕ} (h : count < 256 ^ 4) : Head .ecmaArray (0x08 :: Bytes.toBe 4 count)
  | typedObject {className : String} (h : (Utf8.encode className).length < 256 ^ 2) :
      Head (.typedObject className) (0x10 :: writeUtf8Short className)

/-- `Reads room refs u form refs' u'`: the input between `u` and its rest `u'` spells `form`, with
`refs` in the reference table before and `refs'` after it. -/
inductive Reads : ℕ → RefTable → List UInt8 → Form → RefTable → List UInt8 → Prop
  | scalar {room refs v bs u} (h : Scalar v bs) :
      Reads (room + 1) refs (bs ++ u) (.value v) refs u
  | reference {room refs idx v u} (hidx : idx < 256 ^ 2) (h : refs[idx]? = some v) :
      Reads (room + 1) refs (0x07 :: (Bytes.toBe 2 idx ++ u)) (.value v) refs u
  | avmplus {room refs w u u'} (h : Amf3.decode.run u = (.ok w, u')) :
      Reads (room + 1) refs (0x11 :: u) (.value w.toAmf0) refs u'
  | container {room refs make bs ps u refs' u'} (hhead : Head make bs)
      (h : Reads room (refs ++ [make []]) u (.body ps) refs' u') :
      Reads (room + 1) refs (bs ++ u) (.value (make ps)) (refs'.set refs.length (make ps)) u'
  | strictArray {room refs vs u refs' u'} (hlen : vs.length < 256 ^ 4)
      (h : Reads room (refs ++ [.strictArray []]) u (.items vs) refs' u') :
      Reads (room + 1) refs (0x0A :: (Bytes.toBe 4 vs.length ++ u)) (.value (.strictArray vs))
        (refs'.set refs.length (.strictArray vs)) u'
  | objectEnd {room refs u} : Reads room refs (writeUtf8Short "" ++ 0x09 :: u) (.body []) refs u
  | property {room refs k v ps u refs' u' refs'' u''} (hk : k ≠ "")
      (hlen : (Utf8.encode k).length < 256 ^ 2) (hv : Reads room refs u (.value v) refs' u')
      (hps : Reads room refs' u' (.body ps) refs'' u'') :
      Reads room refs (writeUtf8Short k ++ u) (.body ((k, v) :: ps)) refs'' u''
  | noItem {room refs u} : Reads room refs u (.items []) refs u
  | item {room refs v vs u refs' u' refs'' u''} (hv : Reads room refs u (.value v) refs' u')
      (hvs : Reads room refs' u' (.items vs) refs'' u'') :
      Reads room refs u (.items (v :: vs)) refs'' u''

/-! ### Lengths -/

/-- The least number of bytes a form can take. -/
def Form.minLength : Form → ℕ
  | .value _ => 1
  | .body ps => ps.length + 1
  | .items vs => vs.length

lemma length_writeUtf8Short (s : String) :
    (writeUtf8Short s).length = 2 + (Utf8.encode s).length := by
  rw [writeUtf8Short, List.length_append, Bytes.length_toBe]

lemma Scalar.length_pos {v : Amf0Value} {bs : List UInt8} (h : Scalar v bs) : 0 < bs.length := by
  cases h <;> simp

lemma Head.length_pos {make : List (String × Amf0Value) → Amf0Value} {bs : List UInt8}
    (h : Head make bs) : 0 < bs.length := by
  cases h <;> simp

/-- **Lengths**: a form takes at least as many bytes as it has parts. -/
theorem Reads.length_le {room : ℕ} {refs refs' : RefTable} {u u' : List UInt8} {form : Form}
    (h : Reads room refs u form refs' u') : u'.length + form.minLength ≤ u.length := by
  induction h with
  | scalar h =>
      have hpos := h.length_pos
      simp only [Form.minLength, List.length_append]
      omega
  | reference => simp [Form.minLength]
  | avmplus h =>
      have hle := (Amf3.decode_advances.of_run h).length_le
      simpa [Form.minLength] using hle
  | container hhead _ ih =>
      have hpos := hhead.length_pos
      simp only [Form.minLength, List.length_append] at ih ⊢
      omega
  | strictArray _ _ ih =>
      simp only [Form.minLength, List.length_append, List.length_cons] at ih ⊢
      omega
  | objectEnd =>
      simp only [Form.minLength, List.length_append, List.length_cons, List.length_nil]
      omega
  | property _ _ _ _ ihv ihps =>
      simp only [Form.minLength, List.length_append, length_writeUtf8Short, List.length_cons]
        at ihv ihps ⊢
      omega
  | noItem => simp [Form.minLength]
  | item _ _ ihv ihvs =>
      simp only [Form.minLength, List.length_cons] at ihv ihvs ⊢
      omega

/-! ### The grammar is read -/

section Runs

variable {room idx : ℕ} {refs refs' : RefTable} {u u' bs : List UInt8} {v : Amf0Value}

lemma readU16Be_append {n : ℕ} (h : n < 256 ^ 2) :
    readU16Be.run (Bytes.toBe 2 n ++ u) = (.ok n, u) := Scan.uintBe_append h

lemma readU32Be_append {n : ℕ} (h : n < 256 ^ 4) :
    readU32Be.run (Bytes.toBe 4 n ++ u) = (.ok n, u) := Scan.uintBe_append h

lemma readUtf8Short_append {s : String} (h : (Utf8.encode s).length < 256 ^ 2) :
    readUtf8Short.run (writeUtf8Short s ++ u) = (.ok s, u) := by
  rw [writeUtf8Short, List.append_assoc, readUtf8Short, Eff.run_bind_ok (readU16Be_append h)]
  exact Scan.utf8_append rfl

lemma readUtf8Long_append {s : String} (h : (Utf8.encode s).length < 256 ^ 4) :
    readUtf8Long.run (writeUtf8Long s ++ u) = (.ok s, u) := by
  rw [writeUtf8Long, List.append_assoc, readUtf8Long, Eff.run_bind_ok (readU32Be_append h)]
  exact Scan.utf8_append rfl

lemma readDouble_append (bits : UInt64) :
    readDouble.run (Bytes.toBe 8 bits.toNat ++ u) = (.ok ⟨bits⟩, u) := by
  rw [readDouble, readU64Be, Eff.run_bind_ok (Scan.uintBe_append bits.toNat_lt), UInt64.ofNat_toNat]
  rfl

lemma readI16Be_append (t : UInt16) :
    readI16Be.run (Bytes.toBe 2 t.toNat ++ u) = (.ok t.toInt16, u) := by
  rw [readI16Be, readU16Be, Eff.run_bind_ok (Scan.uintBe_append t.toNat_lt), UInt16.ofNat_toNat]
  rfl

lemma readU8_cons {b : UInt8} :
    (Eff.onFst readU8 : DecodeM UInt8).run (b :: u, refs) = (.ok b, (u, refs)) := rfl

lemma decodeMarked_reference {child : DecodeM Amf0Value} :
    (decodeMarked child).run (0x07 :: u, refs) = readReference.run (u, refs) := by
  rw [decodeMarked, Eff.run_bind_ok readU8_cons]
  rfl

lemma decodeMarked_avmplus {child : DecodeM Amf0Value} :
    (decodeMarked child).run (0x11 :: u, refs) = readAvmplus.run (u, refs) := by
  rw [decodeMarked, Eff.run_bind_ok readU8_cons]
  rfl

lemma decodeMarked_strictArray {child : DecodeM Amf0Value} {count : ℕ} (h : count < 256 ^ 4) :
    (decodeMarked child).run (0x0A :: (Bytes.toBe 4 count ++ u), refs)
      = (readStrictArray child count).run (u, refs) := by
  rw [decodeMarked, Eff.run_bind_ok readU8_cons]
  exact Eff.run_bind_ok (Eff.run_onFst (readU32Be_append h))

/-- A scalar is read from its bytes. -/
lemma decodeMarked_scalar {child : DecodeM Amf0Value} (h : Scalar v bs) :
    (decodeMarked child).run (bs ++ u, refs) = (.ok v, (u, refs)) := by
  cases h with
  | number bits =>
      rw [List.cons_append, decodeMarked, Eff.run_bind_ok readU8_cons]
      exact Eff.run_bind_ok (Eff.run_onFst (readDouble_append bits))
  | boolean b =>
      rw [List.cons_append, decodeMarked, Eff.run_bind_ok readU8_cons]
      rfl
  | string h =>
      rw [List.cons_append, decodeMarked, Eff.run_bind_ok readU8_cons]
      exact Eff.run_bind_ok (Eff.run_onFst (readUtf8Short_append h))
  | longString h =>
      rw [List.cons_append, decodeMarked, Eff.run_bind_ok readU8_cons]
      exact Eff.run_bind_ok (Eff.run_onFst (readUtf8Long_append h))
  | null => rfl
  | undefined => rfl
  | date millis timezone =>
      rw [List.cons_append, List.append_assoc, decodeMarked, Eff.run_bind_ok readU8_cons]
      exact (Eff.run_bind_ok (Eff.run_onFst (readDouble_append millis))).trans
        (Eff.run_bind_ok (Eff.run_onFst (readI16Be_append timezone)))
  | unsupported => rfl
  | xmlDocument h =>
      rw [List.cons_append, decodeMarked, Eff.run_bind_ok readU8_cons]
      exact Eff.run_bind_ok (Eff.run_onFst (readUtf8Long_append h))

/-- The bytes before the members lead to the reader of the container. -/
lemma decodeMarked_head {child : DecodeM Amf0Value} {make : List (String × Amf0Value) → Amf0Value}
    (h : Head make bs) :
    (decodeMarked child).run (bs ++ u, refs) = (readContainer child make).run (u, refs) := by
  cases h with
  | object => rfl
  | ecmaArray h =>
      rw [List.cons_append, decodeMarked, Eff.run_bind_ok readU8_cons]
      exact Eff.run_bind_ok (Eff.run_onFst (Scan.uintBe_append h))
  | typedObject h =>
      rw [List.cons_append, decodeMarked, Eff.run_bind_ok readU8_cons]
      exact Eff.run_bind_ok (Eff.run_onFst (readUtf8Short_append h))

lemma run_readReference (hidx : idx < 256 ^ 2) (h : refs[idx]? = some v) :
    readReference.run (Bytes.toBe 2 idx ++ u, refs) = (.ok v, (u, refs)) := by
  have hrefs : (Eff.onSnd (Eff.gets id) : DecodeM RefTable).run (u, refs) = (.ok refs, (u, refs)) :=
    rfl
  rw [readReference, Eff.run_bind_ok (Eff.run_onFst (readU16Be_append hidx)),
    Eff.run_bind_ok hrefs, h]
  rfl

lemma run_readAvmplus {w : Amf3Value} (h : Amf3.decode.run u = (.ok w, u')) :
    readAvmplus.run (u, refs) = (.ok w.toAmf0, (u', refs)) := by
  have hattempt : Amf3.decode.attempt.run u = (.ok (.ok w), u') := by rw [Eff.run_attempt, h]
  rw [readAvmplus, Eff.run_bind_ok (Eff.run_onFst hattempt)]
  rfl

/-- The empty key and the mark after it end an object body. -/
lemma run_readProperty_end {child : DecodeM Amf0Value} :
    (readProperty child).run (writeUtf8Short "" ++ 0x09 :: u, refs) = (.ok none, (u, refs)) := by
  have hempty : (Utf8.encode "").length < 256 ^ 2 := by
    rw [Utf8.encode_empty]
    norm_num
  rw [readProperty, Eff.run_bind_ok (Eff.run_onFst (readUtf8Short_append hempty)),
    if_pos (by decide), Eff.run_bind_ok readU8_cons, if_pos (by decide)]
  rfl

/-- An object body is read by its loop: the length of the input is enough fuel. -/
lemma run_readObjectBody {child : DecodeM Amf0Value} {ps : List (String × Amf0Value)}
    {s t : List UInt8 × RefTable} (h : Eff.Collects (readProperty child) s ps t)
    (hlen : ps.length ≤ s.1.length) : (readObjectBody child).run s = (.ok ps, t) :=
  (Eff.run_gets_bind _ _ _).trans (h.run (Nat.lt_succ_of_le hlen))

/-- A container is read by reading its members behind its slot. -/
lemma run_inSlot {empty : Amf0Value} {body : DecodeM Amf0Value}
    (h : body.run (u, refs ++ [empty]) = (.ok v, (u', refs'))) :
    (inSlot empty body).run (u, refs) = (.ok v, (u', refs'.set refs.length v)) := by
  have hslot : (Eff.onSnd (Eff.modifyGet fun refs : RefTable => (refs.length, refs ++ [empty])) :
      DecodeM ℕ).run (u, refs) = (.ok refs.length, (u, refs ++ [empty])) := rfl
  rw [inSlot, Eff.run_bind_ok hslot, Eff.run_bind_ok h]
  rfl

end Runs

/-- The decoder reads a form: a value by a decode, an object body by its loop, a row of items by as
many decodes. -/
def Form.Read (child : DecodeM Amf0Value) (s t : List UInt8 × RefTable) : Form → Prop
  | .value v => child.run s = (.ok v, t)
  | .body ps => Eff.Collects (readProperty child) s ps t
  | .items vs => (Eff.times child vs.length).run s = (.ok vs, t)

/-- One level of the recursion, for any state. -/
lemma decodeAtDepth_run {room : ℕ} {s : List UInt8 × RefTable}
    {r : Except Error Amf0Value × (List UInt8 × RefTable)}
    (h : (decodeMarked (decodeAtDepth room)).run s = r) : (decodeAtDepth (room + 1)).run s = r := h

/-- What the grammar allows is read. -/
theorem Reads.read {room : ℕ} {refs refs' : RefTable} {u u' : List UInt8} {form : Form}
    (h : Reads room refs u form refs' u') :
    form.Read (decodeAtDepth room) (u, refs) (u', refs') := by
  induction h with
  | scalar h => exact decodeAtDepth_run (decodeMarked_scalar h)
  | reference hidx h =>
      exact decodeAtDepth_run (decodeMarked_reference.trans (run_readReference hidx h))
  | avmplus h => exact decodeAtDepth_run (decodeMarked_avmplus.trans (run_readAvmplus h))
  | container hhead hbody ih =>
      have hlen := hbody.length_le
      rw [Form.minLength] at hlen
      refine decodeAtDepth_run ((decodeMarked_head hhead).trans (run_inSlot ?_))
      exact Eff.run_bind_ok (run_readObjectBody ih (by simp only; omega))
  | strictArray hlen _ ih =>
      refine decodeAtDepth_run ((decodeMarked_strictArray hlen).trans (run_inSlot ?_))
      exact Eff.run_bind_ok ih
  | objectEnd => exact .done run_readProperty_end
  | property hk hlen _ _ ihv ihps =>
      refine .more ?_ ihps
      rw [readProperty, Eff.run_bind_ok (Eff.run_onFst (readUtf8Short_append hlen)), if_neg hk]
      exact Eff.run_bind_ok ihv
  | noItem => rfl
  | item _ _ ihv ihvs => exact Eff.run_times_succ ihv ihvs

/-! ### What is read is in the grammar -/

section Inversion

variable {room : ℕ} {refs refs' : RefTable} {u u' : List UInt8} {v : Amf0Value}

lemma readUtf8Short_eq_ok {s : String} (h : readUtf8Short.run u = (.ok s, u')) :
    (Utf8.encode s).length < 256 ^ 2 ∧ u = writeUtf8Short s ++ u' := by
  obtain ⟨n, u₁, hn, hs⟩ := Eff.run_bind_eq_ok.mp h
  obtain ⟨hlt, rfl⟩ := Scan.uintBe_eq_ok.mp hn
  obtain ⟨rfl, rfl⟩ := Scan.utf8_eq_ok.mp hs
  exact ⟨hlt, by rw [writeUtf8Short, List.append_assoc]⟩

lemma readUtf8Long_eq_ok {s : String} (h : readUtf8Long.run u = (.ok s, u')) :
    (Utf8.encode s).length < 256 ^ 4 ∧ u = writeUtf8Long s ++ u' := by
  obtain ⟨n, u₁, hn, hs⟩ := Eff.run_bind_eq_ok.mp h
  obtain ⟨hlt, rfl⟩ := Scan.uintBe_eq_ok.mp hn
  obtain ⟨rfl, rfl⟩ := Scan.utf8_eq_ok.mp hs
  exact ⟨hlt, by rw [writeUtf8Long, List.append_assoc]⟩

lemma readDouble_eq_ok {x : Binary64} (h : readDouble.run u = (.ok x, u')) :
    u = Bytes.toBe 8 x.bits.toNat ++ u' := by
  obtain ⟨n, u₁, hn, hx⟩ := Eff.run_bind_eq_ok.mp h
  obtain ⟨hlt, rfl⟩ := Scan.uintBe_eq_ok.mp hn
  cases hx
  rw [UInt64.toNat_ofNat_of_lt' (by simpa using hlt)]

lemma readI16Be_eq_ok {t : Int16} (h : readI16Be.run u = (.ok t, u')) :
    ∃ n : UInt16, t = n.toInt16 ∧ u = Bytes.toBe 2 n.toNat ++ u' := by
  obtain ⟨n, u₁, hn, ht⟩ := Eff.run_bind_eq_ok.mp h
  obtain ⟨hlt, rfl⟩ := Scan.uintBe_eq_ok.mp hn
  cases ht
  exact ⟨UInt16.ofNat n, rfl, by rw [UInt16.toNat_ofNat_of_lt' (by simpa using hlt)]⟩

/-- A value made of one step on the bytes. -/
lemma onFst_pure_eq_ok {α : Type} {x : Eff Error (List UInt8) α} {make : α → Amf0Value}
    {s t : List UInt8 × RefTable}
    (h : (do let a ← Eff.onFst x; pure (make a) : DecodeM Amf0Value).run s = (.ok v, t)) :
    ∃ a, x.run s.1 = (.ok a, t.1) ∧ s.2 = t.2 ∧ v = make a := by
  obtain ⟨a, s', ha, h⟩ := Eff.run_bind_eq_ok.mp h
  obtain ⟨hx, hrefs⟩ := Eff.run_onFst_eq_ok.mp ha
  cases h
  exact ⟨a, hx, hrefs, rfl⟩

/-- A container that was read has its members behind its slot. -/
lemma inSlot_eq_ok {empty : Amf0Value} {body : DecodeM Amf0Value} {s t : List UInt8 × RefTable}
    (h : (inSlot empty body).run s = (.ok v, t)) :
    ∃ refs', body.run (s.1, s.2 ++ [empty]) = (.ok v, (t.1, refs')) ∧ t.2 = refs'.set s.2.length v := by
  obtain ⟨slot, s₁, hslot, h⟩ := Eff.run_bind_eq_ok.mp h
  cases hslot
  obtain ⟨w, s₂, hbody, h⟩ := Eff.run_bind_eq_ok.mp h
  obtain ⟨_, s₃, hset, h⟩ := Eff.run_bind_eq_ok.mp h
  cases hset
  cases h
  exact ⟨s₂.2, hbody, rfl⟩

/-- The children of a container are in the grammar. -/
def ReadsChild (room : ℕ) (child : DecodeM Amf0Value) : Prop :=
  ∀ s t v, child.run s = (.ok v, t) → Reads room s.2 s.1 (.value v) t.2 t.1

variable {child : DecodeM Amf0Value} {s t : List UInt8 × RefTable}

/-- A property takes input. -/
lemma readProperty_shrinks (hchild : ReadsChild room child) {p : String × Amf0Value}
    (h : (readProperty child).run s = (.ok (some p), t)) : t.1.length < s.1.length := by
  obtain ⟨key, s₁, hkey, h⟩ := Eff.run_bind_eq_ok.mp h
  obtain ⟨hkey, -⟩ := Eff.run_onFst_eq_ok.mp hkey
  obtain ⟨-, hs⟩ := readUtf8Short_eq_ok hkey
  split_ifs at h with hempty
  · obtain ⟨mark, s₂, -, h⟩ := Eff.run_bind_eq_ok.mp h
    split_ifs at h <;> cases h
  · obtain ⟨w, s₂, hw, h⟩ := Eff.run_bind_eq_ok.mp h
    cases h
    have hle := (hchild _ _ _ hw).length_le
    simp only [Form.minLength] at hle
    rw [hs, List.length_append, length_writeUtf8Short]
    omega

/-- The rounds of the loop over an object body spell the body. -/
lemma reads_of_collects (hchild : ReadsChild room child) {ps : List (String × Amf0Value)}
    (h : Eff.Collects (readProperty child) s ps t) : Reads room s.2 s.1 (.body ps) t.2 t.1 := by
  induction h with
  | @done s t h =>
      obtain ⟨key, s₁, hkey, h⟩ := Eff.run_bind_eq_ok.mp h
      obtain ⟨hkey, hrefs⟩ := Eff.run_onFst_eq_ok.mp hkey
      obtain ⟨-, hs⟩ := readUtf8Short_eq_ok hkey
      -- an empty key ends the body, if the mark of an end follows
      split_ifs at h with hempty
      · obtain ⟨mark, s₂, hmark, h⟩ := Eff.run_bind_eq_ok.mp h
        obtain ⟨hmark, hrefs'⟩ := Eff.run_onFst_eq_ok.mp hmark
        split_ifs at h with hend
        · cases h
          rw [hs, hempty, Scan.byte_eq_ok.mp hmark, hend, hrefs, hrefs']
          exact .objectEnd
        · cases h
      · obtain ⟨w, s₂, -, h⟩ := Eff.run_bind_eq_ok.mp h
        cases h
  | @more s s' t p ps h _ ih =>
      obtain ⟨key, s₁, hkey, h⟩ := Eff.run_bind_eq_ok.mp h
      obtain ⟨hkey, hrefs⟩ := Eff.run_onFst_eq_ok.mp hkey
      obtain ⟨hlen, hs⟩ := readUtf8Short_eq_ok hkey
      split_ifs at h with hempty
      · obtain ⟨mark, s₂, -, h⟩ := Eff.run_bind_eq_ok.mp h
        split_ifs at h <;> cases h
      · obtain ⟨w, s₂, hw, h⟩ := Eff.run_bind_eq_ok.mp h
        cases h
        rw [hs, hrefs]
        exact .property hempty hlen (hchild _ _ _ hw) ih

/-- The rounds of the loop over the items of an array spell the items. -/
lemma reads_of_times (hchild : ReadsChild room child) {n : ℕ} {vs : List Amf0Value}
    (h : (Eff.times child n).run s = (.ok vs, t)) :
    vs.length = n ∧ Reads room s.2 s.1 (.items vs) t.2 t.1 := by
  induction n generalizing s vs with
  | zero =>
      cases h
      exact ⟨rfl, .noItem⟩
  | succ n ih =>
      obtain ⟨w, ws, s', rfl, hw, hws⟩ := Eff.run_times_succ_eq_ok.mp h
      obtain ⟨hlen, hreads⟩ := ih hws
      exact ⟨congrArg (· + 1) hlen, .item (hchild _ _ _ hw) hreads⟩

lemma reads_of_readContainer (hchild : ReadsChild room child)
    {make : List (String × Amf0Value) → Amf0Value} {bs : List UInt8} (hhead : Head make bs)
    (h : (readContainer child make).run s = (.ok v, t)) :
    Reads (room + 1) s.2 (bs ++ s.1) (.value v) t.2 t.1 := by
  obtain ⟨refs', hbody, ht⟩ := inSlot_eq_ok h
  obtain ⟨ps, s₁, hps, hv⟩ := Eff.run_bind_eq_ok.mp hbody
  cases hv
  have hcollects := Eff.collects_of_run (fun s : List UInt8 × RefTable => s.1.length)
    (fun _ _ _ => readProperty_shrinks hchild) (Nat.lt_succ_self _)
    ((Eff.run_gets_bind _ _ _).symm.trans hps)
  rw [ht]
  exact .container hhead (reads_of_collects hchild hcollects)

lemma reads_of_readStrictArray (hchild : ReadsChild room child) {count : ℕ} (hcount : count < 256 ^ 4)
    (h : (readStrictArray child count).run s = (.ok v, t)) :
    Reads (room + 1) s.2 (0x0A :: (Bytes.toBe 4 count ++ s.1)) (.value v) t.2 t.1 := by
  obtain ⟨refs', hbody, ht⟩ := inSlot_eq_ok h
  obtain ⟨vs, s₁, hvs, hv⟩ := Eff.run_bind_eq_ok.mp hbody
  cases hv
  obtain ⟨rfl, hreads⟩ := reads_of_times hchild hvs
  rw [ht]
  exact .strictArray hcount hreads

lemma reads_of_readReference (h : readReference.run s = (.ok v, t)) :
    Reads (room + 1) s.2 (0x07 :: s.1) (.value v) t.2 t.1 := by
  obtain ⟨idx, s₁, hidx, h⟩ := Eff.run_bind_eq_ok.mp h
  obtain ⟨hidx, hrefs⟩ := Eff.run_onFst_eq_ok.mp hidx
  obtain ⟨hlt, hs⟩ := Scan.uintBe_eq_ok.mp hidx
  obtain ⟨table, s₂, htable, h⟩ := Eff.run_bind_eq_ok.mp h
  cases htable
  split at h
  · rename_i w hw
    cases h
    rw [hs, hrefs]
    exact .reference hlt hw
  · cases h

lemma reads_of_readAvmplus (h : readAvmplus.run s = (.ok v, t)) :
    Reads (room + 1) s.2 (0x11 :: s.1) (.value v) t.2 t.1 := by
  obtain ⟨result, s₁, hresult, h⟩ := Eff.run_bind_eq_ok.mp h
  obtain ⟨hattempt, hrefs⟩ := Eff.run_onFst_eq_ok.mp hresult
  rw [Eff.run_attempt, Prod.mk.injEq, Except.ok.injEq] at hattempt
  obtain ⟨hvalue, hrest⟩ := hattempt
  cases result with
  | ok w =>
      cases h
      rw [hrefs]
      exact .avmplus (Prod.ext hvalue hrest)
  | error e => cases h

/-- What a marker's reader accepts is in the grammar. -/
lemma reads_of_decodeMarked (hchild : ReadsChild room child)
    (h : (decodeMarked child).run s = (.ok v, t)) : Reads (room + 1) s.2 s.1 (.value v) t.2 t.1 := by
  obtain ⟨marker, s₁, hmarker, h⟩ := Eff.run_bind_eq_ok.mp h
  obtain ⟨hmarker, hrefs⟩ := Eff.run_onFst_eq_ok.mp hmarker
  rw [Scan.byte_eq_ok.mp hmarker, hrefs]
  -- one case for each marker, in the order of the decoder
  split at h
  case h_1 =>
    obtain ⟨x, hx, hrefs, rfl⟩ := onFst_pure_eq_ok h
    rw [hrefs, readDouble_eq_ok hx]
    exact .scalar (.number x.bits)
  case h_2 =>
    obtain ⟨b, hb, hrefs, rfl⟩ := onFst_pure_eq_ok h
    rw [hrefs, Scan.byte_eq_ok.mp hb]
    exact .scalar (.boolean b)
  case h_3 =>
    obtain ⟨str, hstr, hrefs, rfl⟩ := onFst_pure_eq_ok h
    obtain ⟨hlen, hs⟩ := readUtf8Short_eq_ok hstr
    rw [hrefs, hs]
    exact .scalar (.string hlen)
  case h_4 =>
    obtain ⟨str, hstr, hrefs, rfl⟩ := onFst_pure_eq_ok h
    obtain ⟨hlen, hs⟩ := readUtf8Long_eq_ok hstr
    rw [hrefs, hs]
    exact .scalar (.longString hlen)
  case h_5 =>
    cases h
    exact .scalar .null
  case h_6 =>
    cases h
    exact .scalar .undefined
  case h_7 => exact reads_of_readContainer hchild .object h
  case h_8 =>
    obtain ⟨count, s₂, hcount, h⟩ := Eff.run_bind_eq_ok.mp h
    obtain ⟨hcount, hrefs⟩ := Eff.run_onFst_eq_ok.mp hcount
    obtain ⟨hlt, hs⟩ := Scan.uintBe_eq_ok.mp hcount
    rw [hrefs, hs]
    exact reads_of_readContainer hchild (.ecmaArray hlt) h
  case h_9 =>
    obtain ⟨count, s₂, hcount, h⟩ := Eff.run_bind_eq_ok.mp h
    obtain ⟨hcount, hrefs⟩ := Eff.run_onFst_eq_ok.mp hcount
    obtain ⟨hlt, hs⟩ := Scan.uintBe_eq_ok.mp hcount
    rw [hrefs, hs]
    exact reads_of_readStrictArray hchild hlt h
  case h_10 =>
    obtain ⟨millis, s₂, hmillis, h⟩ := Eff.run_bind_eq_ok.mp h
    obtain ⟨hmillis, hrefs⟩ := Eff.run_onFst_eq_ok.mp hmillis
    -- the timezone is read as a signed word and kept as such
    obtain ⟨timezone, htz, hrefs', rfl⟩ := onFst_pure_eq_ok h
    obtain ⟨n, rfl, hn⟩ := readI16Be_eq_ok htz
    rw [hrefs, hrefs', readDouble_eq_ok hmillis, hn, ← List.append_assoc]
    exact .scalar (.date millis.bits n)
  case h_11 => exact reads_of_readAvmplus h
  case h_12 =>
    cases h
    exact .scalar .unsupported
  case h_13 =>
    obtain ⟨str, hstr, hrefs, rfl⟩ := onFst_pure_eq_ok h
    obtain ⟨hlen, hs⟩ := readUtf8Long_eq_ok hstr
    rw [hrefs, hs]
    exact .scalar (.xmlDocument hlen)
  case h_14 =>
    obtain ⟨className, s₂, hname, h⟩ := Eff.run_bind_eq_ok.mp h
    obtain ⟨hname, hrefs⟩ := Eff.run_onFst_eq_ok.mp hname
    obtain ⟨hlen, hs⟩ := readUtf8Short_eq_ok hname
    rw [hrefs, hs]
    exact reads_of_readContainer hchild (.typedObject hlen) h
  case h_15 => exact reads_of_readReference h
  case h_16 => cases h

end Inversion

lemma reads_of_decodeAtDepth (room : ℕ) : ReadsChild room (decodeAtDepth room) := by
  induction room with
  | zero =>
      intro s t v h
      cases h
  | succ room ih => exact fun s t v h => reads_of_decodeMarked ih h

/-- **The decoder recognises the grammar**: a decode succeeds with a value exactly when that value
stands there. -/
theorem decode_iff {room : ℕ} {refs refs' : RefTable} {u u' : List UInt8} {v : Amf0Value} :
    (decodeAtDepth room).run (u, refs) = (.ok v, (u', refs'))
      ↔ Reads room refs u (.value v) refs' u' :=
  ⟨fun h => reads_of_decodeAtDepth room _ _ v h, fun h => h.read⟩

/-! ### A value at an offset -/

/-- What comes behind a form is an end of the input. -/
lemma Reads.isSuffix {room : ℕ} {refs refs' : RefTable} {u u' : List UInt8} {form : Form}
    (h : Reads room refs u form refs' u') : u' <:+ u := by
  induction h with
  | scalar => exact List.suffix_append _ _
  | reference => exact (List.suffix_append _ _).trans (List.suffix_cons _ _)
  | avmplus h => exact (Amf3.decode_advances.of_run h).trans (List.suffix_cons _ _)
  | container _ _ ih => exact ih.trans (List.suffix_append _ _)
  | strictArray _ _ ih => exact (ih.trans (List.suffix_append _ _)).trans (List.suffix_cons _ _)
  | objectEnd => exact (List.suffix_cons _ _).trans (List.suffix_append _ _)
  | property _ _ _ _ ihv ihps => exact (ihps.trans ihv).trans (List.suffix_append _ _)
  | noItem => exact List.suffix_refl _
  | item _ _ ihv ihvs => exact ihvs.trans ihv

/-- A value that stands at an offset is decoded, and the offset of its end is found. -/
lemma decode_of_reads {buf u' : List UInt8} {pos : ℕ} {refs' : RefTable} {v : Amf0Value}
    (h : Reads maxDecodeDepth [] (buf.drop pos) (.value v) refs' u') :
    ∃ pos', decode buf pos = (.ok v, pos') ∧ buf.drop pos' = u' := by
  have hsuffix := List.suffix_iff_eq_drop.mp h.isSuffix
  refine ⟨pos + ((buf.drop pos).length - u'.length), ?_, ?_⟩
  · rw [decode, decode_iff.mpr h]
  · rw [← List.drop_drop, ← hsuffix]

/-! ### Packets -/

lemma decodeNext_nil {refs : RefTable} : decodeNext.run ([], refs) = (.ok none, ([], refs)) := rfl

lemma decodeNext_eq_some {s t : List UInt8 × RefTable} {v : Amf0Value} :
    decodeNext.run s = (.ok (some v), t)
      ↔ (decodeAtDepth maxDecodeDepth).run s = (.ok v, t) ∧ s.1 ≠ [] := by
  obtain ⟨u, refs⟩ := s
  rw [decodeNext, Eff.run_bind_ok (Eff.run_onFst (Eff.run_gets id u))]
  cases u with
  | nil => simp
  | cons b u =>
      simp only [id, List.isEmpty_cons, Bool.false_eq_true, if_false, ne_eq, reduceCtorEq,
        not_false_eq_true, and_true, Eff.run_bind_eq_ok, Eff.run_pure, Prod.mk.injEq,
        Except.ok.injEq, Option.some.injEq]
      constructor
      · rintro ⟨w, s', hw, rfl, rfl⟩
        exact hw
      · exact fun hw => ⟨v, t, hw, rfl, rfl⟩

lemma decodeNext_eq_none {s t : List UInt8 × RefTable} (h : decodeNext.run s = (.ok none, t)) :
    s.1 = [] ∧ s = t := by
  obtain ⟨u, refs⟩ := s
  rw [decodeNext, Eff.run_bind_ok (Eff.run_onFst (Eff.run_gets id u))] at h
  cases u with
  | nil =>
      cases h
      exact ⟨rfl, rfl⟩
  | cons b u =>
      obtain ⟨w, s', -, h⟩ := Eff.run_bind_eq_ok.mp h
      cases h

/-- The rounds of the loop over a packet spell its values. -/
lemma collects_decodeNext_iff {s t : List UInt8 × RefTable} {vs : List Amf0Value} :
    Eff.Collects decodeNext s vs t
      ↔ Reads maxDecodeDepth s.2 s.1 (.items vs) t.2 t.1 ∧ t.1 = [] := by
  constructor
  · intro h
    induction h with
    | done h =>
        obtain ⟨hs, rfl⟩ := decodeNext_eq_none h
        exact ⟨.noItem, hs⟩
    | more h _ ih =>
        exact ⟨.item (decode_iff.mp (decodeNext_eq_some.mp h).1) ih.1, ih.2⟩
  · intro ⟨h, ht⟩
    obtain ⟨u', refs'⟩ := t
    cases ht
    induction vs generalizing s with
    | nil =>
        obtain ⟨u, refs⟩ := s
        cases h
        exact .done decodeNext_nil
    | cons v vs ih =>
        obtain ⟨u, refs⟩ := s
        cases h with
        | @item _ _ _ _ _ refs₁ u₁ _ _ hv hvs =>
            have hle := hv.length_le
            -- a value takes at least a byte
            have hs : u ≠ [] := by
              rintro rfl
              simp [Form.minLength] at hle
            exact .more (decodeNext_eq_some.mpr ⟨decode_iff.mpr hv, hs⟩)
              (ih (s := (u₁, refs₁)) hvs)

/-- A packet decodes to a list of values exactly when it is these values in a row. -/
theorem decodeAll_iff {buf : List UInt8} {vs : List Amf0Value} :
    decodeAll buf = .ok vs ↔ ∃ refs', Reads maxDecodeDepth [] buf (.items vs) refs' [] := by
  constructor
  · intro h
    have hrun : (Eff.collect decodeNext (buf.length + 1)).run (buf, [])
        = (.ok vs, ((Eff.collect decodeNext (buf.length + 1)).run (buf, [])).2) := Prod.ext h rfl
    have hcollects := Eff.collects_of_run (fun s : List UInt8 × RefTable => s.1.length)
      (fun s s' v hnext => Nat.lt_of_succ_le
        (decode_iff.mp (decodeNext_eq_some.mp hnext).1).length_le) (Nat.lt_succ_self _) hrun
    obtain ⟨hreads, hnil⟩ := collects_decodeNext_iff.mp hcollects
    rw [hnil] at hreads
    exact ⟨_, hreads⟩
  · rintro ⟨refs', h⟩
    have hlen := h.length_le
    simp only [Form.minLength, List.length_nil, Nat.zero_add] at hlen
    have hcollects : Eff.Collects decodeNext (buf, []) vs ([], refs') :=
      collects_decodeNext_iff.mpr ⟨h, rfl⟩
    rw [decodeAll, hcollects.run (Nat.lt_succ_of_le hlen)]

end Rtmp.Amf
