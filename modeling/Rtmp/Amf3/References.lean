import Rtmp.Amf3.Encoder

/-!
AMF3 packets with references.

`Packs` is an encoder that follows the rules of the three reference tables.  Every literal string
other than the empty one takes a slot of the string table, whatever it is used for; every complex
value takes a slot of the object table where its header is written, and every inline class layout one
of the trait table.  Wherever a string, a finished complex value or a layout has a slot, the encoder
may write the index of that slot instead.

* `Known`: what the encoder knows of the decoder's tables;
* `Spells`, `Layout`, `Packs`: strings, class layouts and values, in the bytes an encoder may choose;
* `Agrees`: the decoder's tables hold what the encoder knows;
* `Packs.read` (**tables**): what the encoder writes is read back, and the tables stay in step;
* `decode_packs` (**references**): a packet decodes to the values, however many references stand in
  it.
-/

namespace Rtmp.Amf3

/-! ### Header flags -/

section Headers

variable {n i idx : ℕ}

lemma mask_eq_zero_iff (v i : ℕ) : v &&& 2 ^ i = 0 ↔ v / 2 ^ i % 2 = 0 := by
  have hpos : 2 ^ i ≠ 0 := by positivity
  rw [Bytes.and_two_pow, Nat.testBit_eq_decide_div_mod_eq]
  simp only [decide_eq_true_eq]
  split_ifs <;> omega

lemma literal_eq (n : ℕ) : n <<< 1 ||| 1 = 2 * n + 1 := by
  rw [← Nat.shiftLeft_add_eq_or_of_lt (by decide), Nat.shiftLeft_eq]
  omega

lemma and_one_literal (n : ℕ) : (n <<< 1 ||| 1) &&& 1 ≠ 0 := by
  rw [literal_eq, Nat.and_one_is_mod]
  omega

lemma literal_shift (n : ℕ) : (n <<< 1 ||| 1) >>> 1 = n := by
  rw [literal_eq, Nat.shiftRight_eq_div_pow]
  omega

lemma literal_lt (h : n < 2 ^ 28) : n <<< 1 ||| 1 < 2 ^ 29 := by
  rw [literal_eq]
  omega

lemma and_one_reference (idx : ℕ) : idx <<< 1 &&& 1 = 0 := by
  rw [Nat.shiftLeft_eq, Nat.and_one_is_mod]
  omega

lemma reference_shift (idx : ℕ) : idx <<< 1 >>> 1 = idx := by
  rw [Nat.shiftLeft_eq, Nat.shiftRight_eq_div_pow]
  omega

lemma reference_lt (h : idx < 2 ^ 28) : idx <<< 1 < 2 ^ 29 := by
  rw [Nat.shiftLeft_eq]
  omega

lemma traitReference_eq (idx : ℕ) : idx <<< 2 ||| 1 = 4 * idx + 1 := by
  rw [← Nat.shiftLeft_add_eq_or_of_lt (by decide), Nat.shiftLeft_eq]
  omega

lemma objectHeader_eq (isDynamic : Bool) (n : ℕ) :
    objectHeader isDynamic n = 16 * n + if isDynamic then 11 else 3 := by
  rw [objectHeader, Nat.or_comm]
  cases isDynamic with
  | false =>
      rw [← Nat.shiftLeft_add_eq_or_of_lt (by decide), Nat.shiftLeft_eq]
      simp
      omega
  | true =>
      rw [← Nat.shiftLeft_add_eq_or_of_lt (by decide), Nat.shiftLeft_eq]
      simp
      omega

end Headers

/-! ### An encoder that uses references -/

/-- What the encoder knows of the decoder's tables: an entry for each slot, with its content unless it
was not written by this encoder or is still open. -/
structure Known where
  strings : List (Option String) := []
  objects : List (Option Amf3Value) := []
  traits : List (Option TraitDef) := []

namespace Known

def noteString (s : String) (known : Known) : Known :=
  if s = "" then known else { known with strings := known.strings ++ [some s] }

def pushObject (v : Option Amf3Value) (known : Known) : Known :=
  { known with objects := known.objects ++ [v] }

def setObject (slot : ℕ) (v : Amf3Value) (known : Known) : Known :=
  { known with objects := known.objects.set slot (some v) }

def noteTrait (t : TraitDef) (known : Known) : Known :=
  { known with traits := known.traits ++ [some t] }

end Known

/-- `Spells known u s known' u'`: the input between `u` and `u'` is the string `s`. -/
inductive Spells : Known → List UInt8 → String → Known → List UInt8 → Prop
  | literal {known s u} (hlen : (Utf8.encode s).length < 2 ^ 28) :
      Spells known (writeU29String s ++ u) s (known.noteString s) u
  | reference {known s idx u} (hidx : idx < 2 ^ 28) (h : known.strings[idx]? = some (some s)) :
      Spells known (writeU29 (idx <<< 1) ++ u) s known u

/-- Strings in a row. -/
inductive SpellsAll : Known → List UInt8 → List String → Known → List UInt8 → Prop
  | nil {known u} : SpellsAll known u [] known u
  | cons {known u s known' u' ss known'' u''} (h : Spells known u s known' u')
      (hrest : SpellsAll known' u' ss known'' u'') : SpellsAll known u (s :: ss) known'' u''

/-- The header of an object whose class layout is written out. -/
def TraitDef.header (t : TraitDef) : ℕ :=
  if t.externalizable then 0b0111 else objectHeader t.isDynamic t.sealedMembers.length

/-- The literal encoder can write a class layout: an externalizable class has neither sealed nor
dynamic members. -/
def TraitDef.Writable (t : TraitDef) : Prop :=
  t.sealedMembers.length < 2 ^ 25 ∧
    (t.externalizable = true → t.isDynamic = false ∧ t.sealedMembers = [])

/-- `Layout known header u t known' u'`: an object header and the input between `u` and `u'` give the
class layout `t`. -/
inductive Layout : Known → ℕ → List UInt8 → TraitDef → Known → List UInt8 → Prop
  | inline {known u t known₁ u₁ known₂ u₂} (ht : t.Writable)
      (hname : Spells known u t.className known₁ u₁)
      (hnames : SpellsAll known₁ u₁ t.sealedMembers known₂ u₂) :
      Layout known t.header u t (known₂.noteTrait t) u₂
  | reference {known t idx u} (hidx : idx < 2 ^ 27) (h : known.traits[idx]? = some (some t)) :
      Layout known (idx <<< 2 ||| 1) u t known u

/-- The values that touch no table. -/
inductive Atom : Amf3Value → List UInt8 → Prop
  | undefined : Atom .undefined [0x00]
  | null : Atom .null [0x01]
  | boolean (b : Bool) : Atom (.boolean b) [if b then 0x03 else 0x02]
  | integer {n : Int32} (hlo : -2 ^ 28 ≤ n.toInt) (hhi : n.toInt < 2 ^ 28) :
      Atom (.integer n) (0x04 :: writeI29 n)
  | double (n : Binary64) : Atom (.double n) (0x05 :: Bytes.toBe 8 n.bits.toNat)

/-- The complex values without children, written out. -/
inductive Leaf : Amf3Value → List UInt8 → Prop
  | xmlDocument {s : String} (h : (Utf8.encode s).length < 2 ^ 28) :
      Leaf (.xmlDocument s) (0x07 :: writeU29String s)
  | xml {s : String} (h : (Utf8.encode s).length < 2 ^ 28) : Leaf (.xml s) (0x0B :: writeU29String s)
  | date (millis : Binary64) :
      Leaf (.date millis) (0x08 :: (writeU29 1 ++ Bytes.toBe 8 millis.bits.toNat))
  | byteArray {bytes : List UInt8} (h : bytes.length < 2 ^ 28) :
      Leaf (.byteArray bytes) (0x0C :: (writeLiteral bytes.length ++ bytes))
  | vectorInt (fixed : Bool) {items : List Int32} (h : items.length < 2 ^ 28) :
      Leaf (.vectorInt fixed items) (0x0D :: (writeLiteral items.length
        ++ (writeFlag fixed :: (items.map fun n => Bytes.toBe 4 n.toUInt32.toNat).flatten)))
  | vectorUInt (fixed : Bool) {items : List UInt32} (h : items.length < 2 ^ 28) :
      Leaf (.vectorUInt fixed items) (0x0E :: (writeLiteral items.length
        ++ (writeFlag fixed :: (items.map fun n => Bytes.toBe 4 n.toNat).flatten)))
  | vectorDouble (fixed : Bool) {items : List Binary64} (h : items.length < 2 ^ 28) :
      Leaf (.vectorDouble fixed items) (0x0F :: (writeLiteral items.length
        ++ (writeFlag fixed :: (items.map fun n => Bytes.toBe 8 n.bits.toNat).flatten)))

/-- The marker of a complex value; the others have none. -/
def complexMarker : Amf3Value → Option UInt8
  | .xmlDocument _ => some 0x07
  | .date _ => some 0x08
  | .array .. => some 0x09
  | .object .. => some 0x0A
  | .xml _ => some 0x0B
  | .byteArray _ => some 0x0C
  | .vectorInt .. => some 0x0D
  | .vectorUInt .. => some 0x0E
  | .vectorDouble .. => some 0x0F
  | .vectorObject .. => some 0x10
  | .dictionary .. => some 0x11
  | _ => none

/-- What a stretch of input can spell. -/
inductive Form where
  | value (v : Amf3Value)
  | members (pairs : List (String × Amf3Value))
  | dynamicPart (isDynamic : Bool) (pairs : List (String × Amf3Value))
  | items (vs : List Amf3Value)
  | entries (es : List (Amf3Value × Amf3Value))

/-- `Packs body known u form depth known' u'`: the input between `u` and `u'` is a writing of `form`;
`depth` is the height of what is written out, a reference counting as a scalar, and `body` tells which
bytes the reader of an externalizable class takes, from the bytes themselves and what follows. -/
inductive Packs (body : String → List UInt8 → List UInt8 → Prop) :
    Known → List UInt8 → Form → ℕ → Known → List UInt8 → Prop
  | atom {known v bs u} (h : Atom v bs) : Packs body known (bs ++ u) (.value v) 1 known u
  | string {known s u known' u'} (h : Spells known u s known' u') :
      Packs body known (0x06 :: u) (.value (.string s)) 1 known' u'
  | leaf {known v bs u} (h : Leaf v bs) :
      Packs body known (bs ++ u) (.value v) 1 (known.pushObject (some v)) u
  | reference {known v marker idx u} (hv : complexMarker v = some marker) (hidx : idx < 2 ^ 28)
      (h : known.objects[idx]? = some (some v)) :
      Packs body known (marker :: (writeU29 (idx <<< 1) ++ u)) (.value v) 1 known u
  | array {known dense assoc u depth known₁ u₁ depth' known₂ u₂} (hlen : dense.length < 2 ^ 28)
      (hassoc : Packs body (known.pushObject none) u (.members assoc) depth known₁ u₁)
      (hdense : Packs body known₁ u₁ (.items dense) depth' known₂ u₂) :
      Packs body known (0x09 :: (writeLiteral dense.length ++ u)) (.value (.array dense assoc))
        (max depth depth' + 1) (known₂.setObject known.objects.length (.array dense assoc)) u₂
  | externalizable {known className header u known₁ bs u₁} (hheader : header < 2 ^ 29)
      (ht : Layout known header u ⟨className, false, true, []⟩ known₁ (bs ++ u₁))
      (hbody : body className bs u₁) :
      Packs body known (0x0A :: (writeU29 header ++ u))
        (.value (.object className false [] [] (some bs))) 1
        (known₁.pushObject (some (.object className false [] [] (some bs)))) u₁
  | object {known className isDynamic sealedMembers dynamicMembers header u known₁ u₁ depth known₂ u₂
      depth' known₃ u₃} (hheader : header < 2 ^ 29)
      (ht : Layout known header u ⟨className, isDynamic, false, sealedMembers.map Prod.fst⟩ known₁ u₁)
      (hsealed : Packs body (known₁.pushObject none) u₁ (.items (sealedMembers.map Prod.snd)) depth
        known₂ u₂)
      (hdynamic : Packs body known₂ u₂ (.dynamicPart isDynamic dynamicMembers) depth' known₃ u₃) :
      Packs body known (0x0A :: (writeU29 header ++ u))
        (.value (.object className isDynamic sealedMembers dynamicMembers none))
        (max depth depth' + 1)
        (known₃.setObject known₁.objects.length
          (.object className isDynamic sealedMembers dynamicMembers none)) u₃
  | vectorObject {known fixed objectTypeName items u known₁ u₁ depth known₂ u₂}
      (hlen : items.length < 2 ^ 28) (hname : Spells known u objectTypeName known₁ u₁)
      (hitems : Packs body (known₁.pushObject none) u₁ (.items items) depth known₂ u₂) :
      Packs body known (0x10 :: (writeLiteral items.length ++ (writeFlag fixed :: u)))
        (.value (.vectorObject fixed objectTypeName items)) (depth + 1)
        (known₂.setObject known₁.objects.length (.vectorObject fixed objectTypeName items)) u₂
  | dictionary {known weakKeys entries u depth known' u'} (hlen : entries.length < 2 ^ 28)
      (hentries : Packs body (known.pushObject none) u (.entries entries) depth known' u') :
      Packs body known (0x11 :: (writeLiteral entries.length ++ (writeFlag weakKeys :: u)))
        (.value (.dictionary weakKeys entries)) (depth + 1)
        (known'.setObject known.objects.length (.dictionary weakKeys entries)) u'
  | memberEnd {known u} : Packs body known (writeU29String "" ++ u) (.members []) 0 known u
  | member {known k v ps u known₁ u₁ depth known₂ u₂ depth' known₃ u₃} (hk : k ≠ "")
      (hkey : Spells known u k known₁ u₁) (hv : Packs body known₁ u₁ (.value v) depth known₂ u₂)
      (hps : Packs body known₂ u₂ (.members ps) depth' known₃ u₃) :
      Packs body known u (.members ((k, v) :: ps)) (max depth depth') known₃ u₃
  | sealedOnly {known u} : Packs body known u (.dynamicPart false []) 0 known u
  | dynamicMembers {known ps u depth known' u'}
      (h : Packs body known u (.members ps) depth known' u') :
      Packs body known u (.dynamicPart true ps) depth known' u'
  | noItem {known u} : Packs body known u (.items []) 0 known u
  | item {known v vs u depth known₁ u₁ depth' known₂ u₂}
      (hv : Packs body known u (.value v) depth known₁ u₁)
      (hvs : Packs body known₁ u₁ (.items vs) depth' known₂ u₂) :
      Packs body known u (.items (v :: vs)) (max depth depth') known₂ u₂
  | noEntry {known u} : Packs body known u (.entries []) 0 known u
  | entry {known k v es u depth₁ known₁ u₁ depth₂ known₂ u₂ depth₃ known₃ u₃}
      (hk : Packs body known u (.value k) depth₁ known₁ u₁)
      (hv : Packs body known₁ u₁ (.value v) depth₂ known₂ u₂)
      (hes : Packs body known₂ u₂ (.entries es) depth₃ known₃ u₃) :
      Packs body known u (.entries ((k, v) :: es)) (max (max depth₁ depth₂) depth₃) known₃ u₃

/-! ### The tables in step -/

/-- What the object table holds of a value: the two XML kinds are stored as one. -/
def stored : Amf3Value → Amf3Value
  | .xml s => .xmlDocument s
  | v => v

/-- The decoder's tables have a slot for each of the encoder's, and in it what the encoder knows. -/
structure Agrees (known : Known) (d : Decoder) : Prop where
  strings_length : d.strings.length = known.strings.length
  strings : ∀ (idx : ℕ) (s : String), known.strings[idx]? = some (some s) → d.strings[idx]? = some s
  objects_length : d.objects.length = known.objects.length
  objects : ∀ (idx : ℕ) (v : Amf3Value), known.objects[idx]? = some (some v) →
    d.objects[idx]? = some (stored v)
  traits_length : d.traits.length = known.traits.length
  traits : ∀ (idx : ℕ) (t : TraitDef), known.traits[idx]? = some (some t) → d.traits[idx]? = some t

/-- What a read of the input leaves alone: the registered readers and the depth. -/
structure SameSetup (d d' : Decoder) : Prop where
  handlers : d'.externalizableHandlers = d.externalizableHandlers
  depth : d'.depth = d.depth

lemma SameSetup.refl (d : Decoder) : SameSetup d d := ⟨rfl, rfl⟩

lemma SameSetup.trans {d d' d'' : Decoder} (h : SameSetup d d') (h' : SameSetup d' d'') :
    SameSetup d d'' := ⟨h'.handlers.trans h.handlers, h'.depth.trans h.depth⟩

namespace Agrees

variable {known : Known} {d : Decoder}

/-- A slot taken on both sides. -/
lemma push_entry {α β : Type} {known : List (Option α)} {table : List β} {f : α → β}
    (hlen : table.length = known.length)
    (h : ∀ (idx : ℕ) (a : α), known[idx]? = some (some a) → table[idx]? = some (f a))
    {a : Option α} {b : β} (hab : ∀ a', a = some a' → b = f a') :
    ∀ (idx : ℕ) (a' : α), (known ++ [a])[idx]? = some (some a') →
      (table ++ [b])[idx]? = some (f a') := by
  intro idx a' hidx
  rcases Nat.lt_or_ge idx known.length with hlt | hge
  · rw [List.getElem?_append_left hlt] at hidx
    rw [List.getElem?_append_left (hlen ▸ hlt)]
    exact h idx a' hidx
  · rw [List.getElem?_append_right hge, List.getElem?_singleton] at hidx
    rw [List.getElem?_append_right (hlen ▸ hge), List.getElem?_singleton, hlen]
    split_ifs at hidx ⊢
    rw [Option.some.injEq] at hidx
    rw [hab a' hidx]

lemma noteString (h : Agrees known d) (s : String) :
    Agrees (known.noteString s) (d.internString s) := by
  rw [Known.noteString, Decoder.internString]
  split_ifs
  · exact h
  · exact
      { h with
        strings_length := by simp [h.strings_length]
        strings := push_entry (f := id) h.strings_length h.strings (by simp) }

lemma noteTrait (h : Agrees known d) (t : TraitDef) : Agrees (known.noteTrait t) (d.pushTrait t) :=
  { h with
    traits_length := by simp [Known.noteTrait, Decoder.pushTrait, h.traits_length]
    traits := push_entry (f := id) h.traits_length h.traits (by simp) }

lemma pushObject (h : Agrees known d) {v : Option Amf3Value} {w : Amf3Value}
    (hw : ∀ v', v = some v' → w = stored v') : Agrees (known.pushObject v) (d.pushObject w) :=
  { h with
    objects_length := by simp [Known.pushObject, Decoder.pushObject, h.objects_length]
    objects := push_entry h.objects_length h.objects hw }

lemma setObject (h : Agrees known d) {slot slot' : ℕ} (hslot : slot' = slot) {v w : Amf3Value}
    (hw : w = stored v) : Agrees (known.setObject slot v) (d.setObject slot' w) :=
  { h with
    objects_length := by simp [Known.setObject, Decoder.setObject, h.objects_length]
    objects := by
      subst hslot hw
      intro idx v' hidx
      rw [Known.setObject, List.getElem?_set] at hidx
      rw [Decoder.setObject, List.getElem?_set, h.objects_length]
      split_ifs at hidx ⊢
      · cases hidx
        rfl
      · exact h.objects idx v' hidx }

lemma enter (h : Agrees known d) : Agrees known d.enter := { h with }

lemma leave (h : Agrees known d) : Agrees known d.leave := { h with }

end Agrees

/-! ### Running the decoder on what was written -/

section Runs

variable {known known' : Known} {d d' : Decoder} {buf u u' : List UInt8} {v w : Amf3Value}
  {child : DecodeM Amf3Value}

lemma run_readU29 {n : ℕ} (h : n < 2 ^ 29) :
    (Eff.onFst readU29 : DecodeM ℕ).run (writeU29 n ++ u, d) = (.ok n, (u, d)) :=
  Eff.run_onFst (readU29_writeU29 h)

lemma run_readU8 {b : UInt8} :
    (Eff.onFst readU8 : DecodeM UInt8).run (b :: u, d) = (.ok b, (u, d)) := rfl

lemma run_modify (f : Decoder → Decoder) :
    (Eff.onSnd (Eff.modify f) : DecodeM Unit).run (u, d) = (.ok (), (u, f d)) := rfl

lemma run_gets {α : Type} (f : Decoder → α) :
    (Eff.onSnd (Eff.gets f) : DecodeM α).run (u, d) = (.ok (f d), (u, d)) := rfl

lemma readUtf8Body_append {s : String} {n : ℕ} (h : (Utf8.encode s).length = n) :
    (readUtf8Body n).run (Utf8.encode s ++ u) = (.ok s, u) := Scan.utf8_append h

/-- A string is read back, inline or from the table. -/
lemma Spells.read {s : String} (h : Spells known u s known' u') (hd : Agrees known d) :
    ∃ d', readString.run (u, d) = (.ok s, (u', d')) ∧ Agrees known' d' ∧ SameSetup d d' := by
  cases h with
  | literal hlen =>
      refine ⟨d.internString s, ?_, hd.noteString s, ?_⟩
      · have hbody := readUtf8Body_append (u := u') (s := s) (literal_shift _).symm
        rw [writeU29String, writeLiteral, List.append_assoc, readString,
          Eff.run_bind_ok (run_readU29 (literal_lt hlen)), if_neg (and_one_literal _),
          Eff.run_bind_ok (Eff.run_onFst hbody), Eff.run_bind_ok (run_modify _)]
        rfl
      · rw [Decoder.internString]
        split_ifs
        · exact .refl d
        · exact ⟨rfl, rfl⟩
  | reference hidx h =>
      rename_i idx
      refine ⟨d, ?_, hd, .refl d⟩
      rw [readString, Eff.run_bind_ok (run_readU29 (reference_lt hidx)),
        if_pos (and_one_reference idx), Eff.run_bind_ok (run_gets _), reference_shift,
        hd.strings idx s h]
      rfl

/-- So are strings in a row. -/
lemma SpellsAll.read {ss : List String} (h : SpellsAll known u ss known' u') (hd : Agrees known d) :
    ∃ d', (Eff.times readString ss.length).run (u, d) = (.ok ss, (u', d')) ∧ Agrees known' d' ∧
      SameSetup d d' := by
  induction h generalizing d with
  | nil => exact ⟨d, rfl, hd, .refl d⟩
  | cons h _ ih =>
      obtain ⟨d₁, hrun, hd₁, hsame⟩ := h.read hd
      obtain ⟨d₂, hrun', hd₂, hsame'⟩ := ih hd₁
      exact ⟨d₂, Eff.run_times_succ hrun hrun', hd₂, hsame.trans hsame'⟩

/-- A header with an inline layout has its first two flags set, and the others say what the layout
does. -/
lemma TraitDef.header_flags {t : TraitDef} (h : t.Writable) :
    t.header &&& 2 ≠ 0 ∧ t.header >>> 4 = t.sealedMembers.length ∧
      decide (t.header &&& 4 ≠ 0) = t.externalizable ∧ decide (t.header &&& 8 ≠ 0) = t.isDynamic := by
  obtain ⟨className, isDynamic, externalizable, sealedMembers⟩ := t
  cases externalizable with
  | true =>
      obtain ⟨rfl, rfl⟩ := h.2 rfl
      have h7 : 7 &&& 2 ≠ 0 ∧ 7 >>> 4 = 0 ∧ decide (7 &&& 4 ≠ 0) = true
          ∧ decide (7 &&& 8 ≠ 0) = false := by decide
      exact h7
  | false =>
      have hheader := objectHeader_eq isDynamic sealedMembers.length
      have h2 : ∀ v, v &&& 2 = 0 ↔ v / 2 % 2 = 0 := fun v => mask_eq_zero_iff v 1
      have h4 : ∀ v, v &&& 4 = 0 ↔ v / 4 % 2 = 0 := fun v => mask_eq_zero_iff v 2
      have h8 : ∀ v, v &&& 8 = 0 ↔ v / 8 % 2 = 0 := fun v => mask_eq_zero_iff v 3
      simp only [TraitDef.header, Bool.false_eq_true, if_false, Nat.shiftRight_eq_div_pow, ne_eq,
        h2, h4, h8, hheader]
      cases isDynamic <;> simp <;> omega

/-- A class layout is read back, inline or from the table. -/
lemma Layout.read {header : ℕ} {t : TraitDef} (h : Layout known header u t known' u')
    (hd : Agrees known d) :
    ∃ d', (readTraits header).run (u, d) = (.ok t, (u', d')) ∧ Agrees known' d' ∧
      SameSetup d d' := by
  cases h with
  | inline ht hname hnames =>
      obtain ⟨d₁, hrun, hd₁, hsame⟩ := hname.read hd
      obtain ⟨d₂, hrun', hd₂, hsame'⟩ := hnames.read hd₁
      obtain ⟨hinline, hcount, hext, hdyn⟩ := TraitDef.header_flags ht
      refine ⟨d₂.pushTrait t, ?_, hd₂.noteTrait t, (hsame.trans hsame').trans ⟨rfl, rfl⟩⟩
      rw [readTraits, if_neg hinline, Eff.run_bind_ok hrun, hcount, Eff.run_bind_ok hrun', hext, hdyn]
      rfl
  | reference hidx h =>
      rename_i idx
      have hzero : (idx <<< 2 ||| 1) &&& 2 = 0 := by
        rw [traitReference_eq]
        exact (mask_eq_zero_iff _ 1).mpr (by omega)
      have hshift : (idx <<< 2 ||| 1) >>> 2 = idx := by
        rw [traitReference_eq, Nat.shiftRight_eq_div_pow]
        omega
      refine ⟨d, ?_, hd, .refl d⟩
      rw [readTraits, if_pos hzero, Eff.run_bind_ok (run_gets _), hshift, hd.traits idx t h]
      rfl

lemma Layout.header_odd {header : ℕ} {t : TraitDef} (h : Layout known header u t known' u') :
    header &&& 1 ≠ 0 := by
  cases h with
  | inline ht =>
      rw [TraitDef.header]
      split_ifs
      · decide
      · rw [objectHeader_eq, Nat.and_one_is_mod]
        split_ifs <;> omega
  | reference =>
      rw [traitReference_eq, Nat.and_one_is_mod]
      omega

lemma run_decodeInner {b : UInt8} :
    (decodeInner buf child).run (b :: u, d) = (readMarked buf child b).run (u, d) := by
  rw [decodeInner, Eff.run_bind_ok run_readU8]

/-- An inline header leads to the reader of the inline form. -/
lemma run_byReference_inline {inline : ℕ → DecodeM Amf3Value} {header : ℕ} (hlt : header < 2 ^ 29)
    (hodd : header &&& 1 ≠ 0) :
    (byReference inline).run (writeU29 header ++ u, d) = (inline header).run (u, d) := by
  rw [byReference, Eff.run_bind_ok (run_readU29 hlt), if_neg hodd]

/-- An index leads to the object in its slot. -/
lemma run_byReference_lookup {inline : ℕ → DecodeM Amf3Value} {idx : ℕ} (hidx : idx < 2 ^ 28)
    (h : d.objects[idx]? = some v) :
    (byReference inline).run (writeU29 (idx <<< 1) ++ u, d) = (.ok v, (u, d)) := by
  rw [byReference, Eff.run_bind_ok (run_readU29 (reference_lt hidx)),
    if_pos (and_one_reference idx), reference_shift, lookupObject, Eff.run_bind_ok (run_gets _), h]
  rfl

/-- A value with children is read by reading them behind its slot. -/
lemma run_inSlot {body : DecodeM Amf3Value}
    (h : body.run (u, d.pushObject .null) = (.ok v, (u', d'))) :
    (inSlot body).run (u, d) = (.ok v, (u', d'.setObject d.objects.length v)) := by
  have hslot : (Eff.onSnd (Eff.modifyGet fun d : Decoder => (d.objects.length, d.pushObject .null)) :
      DecodeM ℕ).run (u, d) = (.ok d.objects.length, (u, d.pushObject .null)) := rfl
  rw [inSlot, Eff.run_bind_ok hslot, Eff.run_bind_ok h, Eff.run_bind_ok (run_modify _)]
  rfl

lemma run_readLeaf {leaf : ℕ → Eff Error (List UInt8) Amf3Value} {n : ℕ} (hlt : n < 2 ^ 28)
    (h : (leaf n).run u = (.ok v, u')) :
    (readLeaf leaf).run (writeLiteral n ++ u, d) = (.ok v, (u', d.pushObject v)) := by
  rw [writeLiteral, readLeaf, run_byReference_inline (literal_lt hlt) (and_one_literal n),
    literal_shift, Eff.run_bind_ok (Eff.run_onFst h), Eff.run_bind_ok (run_modify _)]
  rfl

/-- The text of an XML value takes a slot as an XML document. -/
lemma run_readObjectString {s : String} (h : (Utf8.encode s).length < 2 ^ 28) :
    readObjectString.run (writeU29String s ++ u, d) = (.ok s, (u, d.pushObject (.xmlDocument s))) := by
  have hbody := readUtf8Body_append (u := u) (s := s) (literal_shift _).symm
  rw [writeU29String, writeLiteral, List.append_assoc, readObjectString,
    Eff.run_bind_ok (run_readU29 (literal_lt h)), if_neg (and_one_literal _),
    Eff.run_bind_ok (Eff.run_onFst hbody), Eff.run_bind_ok (run_modify _)]
  rfl

lemma run_readObjectString_lookup {s : String} {idx : ℕ} (hidx : idx < 2 ^ 28)
    (h : d.objects[idx]? = some (.xmlDocument s)) :
    readObjectString.run (writeU29 (idx <<< 1) ++ u, d) = (.ok s, (u, d)) := by
  rw [readObjectString, Eff.run_bind_ok (run_readU29 (reference_lt hidx)),
    if_pos (and_one_reference idx), Eff.run_bind_ok (run_gets _), reference_shift, h]
  rfl

lemma readDouble_append (x : Binary64) :
    readDouble.run (Bytes.toBe 8 x.bits.toNat ++ u) = (.ok x, u) := by
  have hbits : readU64Be.run (Bytes.toBe 8 x.bits.toNat ++ u) = (.ok x.bits.toNat, u) :=
    Scan.uintBe_append x.bits.toNat_lt
  rw [readDouble, Eff.run_bind_ok hbits, UInt64.ofNat_toNat]
  rfl

/-- Items written one after the other are read one after the other. -/
lemma run_times_flatten {α β : Type} {x : Eff Error (List UInt8) α} {bytes : β → List UInt8}
    {f : β → α} (h : ∀ b u, x.run (bytes b ++ u) = (.ok (f b), u)) (bs : List β) :
    (Eff.times x bs.length).run ((bs.map bytes).flatten ++ u) = (.ok (bs.map f), u) := by
  induction bs with
  | nil => rfl
  | cons b bs ih =>
      rw [List.map_cons, List.flatten_cons, List.append_assoc]
      exact Eff.run_times_succ (h b _) ih

lemma readU32Be_append {n : ℕ} (h : n < 2 ^ 32) :
    readU32Be.run (Bytes.toBe 4 n ++ u) = (.ok n, u) := Scan.uintBe_append h

lemma decide_writeFlag (b : Bool) : decide (writeFlag b ≠ 0) = b := by
  cases b <;> rfl

/-- A vector of numbers is read back. -/
lemma run_vector {α β : Type} {x : Eff Error (List UInt8) α} {bytes : β → List UInt8} {f : β → α}
    (h : ∀ b u, x.run (bytes b ++ u) = (.ok (f b), u)) (make : Bool → List α → Amf3Value)
    (fixed : Bool) {bs : List β} (hlen : bs.length < 2 ^ 28) :
    (readLeaf fun count => do
        let flag ← readU8
        let items ← Eff.times x count
        pure (make (decide (flag ≠ 0)) items)).run
      (writeLiteral bs.length ++ (writeFlag fixed :: (bs.map bytes).flatten) ++ u, d)
      = (.ok (make fixed (bs.map f)), (u, d.pushObject (make fixed (bs.map f)))) := by
  have hflag : readU8.run (writeFlag fixed :: ((bs.map bytes).flatten ++ u))
      = (.ok (writeFlag fixed), (bs.map bytes).flatten ++ u) := rfl
  rw [List.append_assoc, List.cons_append]
  refine run_readLeaf hlen ?_
  rw [Eff.run_bind_ok hflag, Eff.run_bind_ok (run_times_flatten h bs), decide_writeFlag]
  rfl

/-- An atom is read from its bytes. -/
lemma Atom.read {bs : List UInt8} (h : Atom v bs) :
    (decodeInner buf child).run (bs ++ u, d) = (.ok v, (u, d)) := by
  cases h with
  | undefined => rfl
  | null => rfl
  | boolean b => cases b <;> rfl
  | integer hlo hhi =>
      rw [List.cons_append, run_decodeInner]
      exact Eff.run_bind_ok (Eff.run_onFst (readI29_writeI29 hlo hhi))
  | double n =>
      rw [List.cons_append, run_decodeInner]
      exact Eff.run_bind_ok (Eff.run_onFst (readDouble_append n))

/-- A complex value without children is read from its bytes and takes a slot. -/
lemma Leaf.read {bs : List UInt8} (h : Leaf v bs) :
    (decodeInner buf child).run (bs ++ u, d) = (.ok v, (u, d.pushObject (stored v))) := by
  cases h with
  | xmlDocument h =>
      rw [List.cons_append, run_decodeInner]
      exact Eff.run_bind_ok (run_readObjectString h)
  | xml h =>
      rw [List.cons_append, run_decodeInner]
      exact Eff.run_bind_ok (run_readObjectString h)
  | date millis =>
      -- a date is inline with nothing else in its header
      have hheader : writeU29 1 = writeLiteral 0 := rfl
      rw [List.cons_append, List.append_assoc, run_decodeInner, hheader]
      change readDate.run _ = _
      rw [readDate]
      refine run_readLeaf (by decide) ?_
      exact Eff.run_bind_ok (readDouble_append millis)
  | byteArray h =>
      rw [List.cons_append, List.append_assoc, run_decodeInner]
      change readByteArray.run _ = _
      rw [readByteArray]
      refine run_readLeaf h ?_
      exact Eff.run_bind_ok (Scan.bytes_append rfl)
  | @vectorInt fixed items h =>
      -- the items pass through their words and are the same again
      have hitems : (items.map fun n => n.toUInt32.toNat).map (fun n => (UInt32.ofNat n).toInt32)
          = items := by
        rw [List.map_map]
        exact List.map_id'' (fun n => congrArg UInt32.toInt32 (UInt32.ofNat_toNat)) items
      have hread := run_vector (u := u) (d := d)
        (fun (n : Int32) u => readU32Be_append (u := u) n.toUInt32.toNat_lt)
        (fun fixed items => .vectorInt fixed (items.map fun n => (UInt32.ofNat n).toInt32)) fixed h
      rw [hitems] at hread
      rw [List.cons_append, run_decodeInner]
      exact hread
  | @vectorUInt fixed items h =>
      have hitems : (items.map fun n => n.toNat).map UInt32.ofNat = items := by
        simp [Function.comp_def]
      have hread := run_vector (u := u) (d := d)
        (fun (n : UInt32) u => readU32Be_append (u := u) n.toNat_lt)
        (fun fixed items => .vectorUInt fixed (items.map UInt32.ofNat)) fixed h
      rw [hitems] at hread
      rw [List.cons_append, run_decodeInner]
      exact hread
  | @vectorDouble fixed items h =>
      have hread := run_vector (u := u) (d := d)
        (fun (n : Binary64) u => readDouble_append (u := u) n) .vectorDouble fixed h
      rw [List.map_id'' fun _ => rfl] at hread
      rw [List.cons_append, run_decodeInner]
      exact hread

/-- A reference to a complex value is resolved to it. -/
lemma run_reference {marker : UInt8} {idx : ℕ} (hv : complexMarker v = some marker)
    (hidx : idx < 2 ^ 28) (h : d.objects[idx]? = some (stored v)) :
    (readMarked buf child marker).run (writeU29 (idx <<< 1) ++ u, d) = (.ok v, (u, d)) := by
  cases v <;> cases hv
  case xmlDocument s => exact Eff.run_bind_ok (run_readObjectString_lookup hidx h)
  case xml s => exact Eff.run_bind_ok (run_readObjectString_lookup hidx h)
  all_goals exact run_byReference_lookup hidx h

end Runs

/-- The reader registered for a class takes the bytes of a body, when they and then `rest` are what
is left of `buf`. -/
def Registered (buf : List UInt8) (handlers : String → Option ExternalizableReader)
    (className : String) (bs rest : List UInt8) : Prop :=
  ∃ reader, handlers className = some reader ∧
    reader buf (buf.length - (bs ++ rest).length) = .ok bs.length ∧
    buf.length - (bs ++ rest).length + bs.length < 2 ^ 64

/-- The decoder reads a form. -/
def Form.Read (child : DecodeM Amf3Value) (s t : List UInt8 × Decoder) : Form → Prop
  | .value v => child.run s = (.ok v, t)
  | .members ps => Eff.Collects (readMember child) s ps t
  | .dynamicPart isDynamic ps => (readDynamicMembers child isDynamic).run s = (.ok ps, t)
  | .items vs => (Eff.times child vs.length).run s = (.ok vs, t)
  | .entries es => (Eff.times (readEntry child) es.length).run s = (.ok es, t)

section Values

variable {known known' : Known} {d d' : Decoder} {buf u u' : List UInt8} {v : Amf3Value}
  {fuel depth : ℕ}

/-- The depth is counted around a value. -/
lemma run_decodeFrom (hdepth : d.depth < maxDecodeDepth)
    (h : (decodeInner buf (decodeFrom buf fuel)).run (u, d.enter) = (.ok v, (u', d'))) :
    (decodeFrom buf (fuel + 1)).run (u, d) = (.ok v, (u', d'.leave)) := by
  rw [decodeFrom, Eff.run_bind_ok (run_gets _), if_neg (Nat.not_le_of_lt hdepth),
    Eff.run_bind_ok (run_modify _), Eff.run_attempt_bind, h, Eff.run_bind_ok (run_modify _)]
  rfl

/-- A value one level down is a value here. -/
lemma read_value (hfuel : depth + 1 ≤ fuel) (hroom : d.depth + (depth + 1) ≤ maxDecodeDepth)
    (h : ∀ f, depth ≤ f → ∃ d', (decodeInner buf (decodeFrom buf f)).run (u, d.enter)
        = (.ok v, (u', d')) ∧ Agrees known' d' ∧ SameSetup d.enter d') :
    ∃ d', (decodeFrom buf fuel).run (u, d) = (.ok v, (u', d')) ∧ Agrees known' d' ∧
      SameSetup d d' := by
  obtain ⟨fuel, rfl⟩ := Nat.exists_eq_add_of_le' (Nat.le_of_add_left_le hfuel)
  obtain ⟨d', hrun, hagrees, hsame⟩ := h fuel (Nat.le_of_succ_le_succ hfuel)
  refine ⟨d'.leave, run_decodeFrom (by omega) hrun, hagrees.leave, hsame.handlers, ?_⟩
  have hdepth := hsame.depth
  simp only [Decoder.enter] at hdepth
  simp only [Decoder.leave]
  omega

/-- A value with children is read behind its slot, which is filled on both sides. -/
lemma read_inSlot {body : DecodeM Amf3Value} (hd : Agrees known d) (hv : stored v = v)
    (h : ∃ d', body.run (u, d.pushObject .null) = (.ok v, (u', d')) ∧ Agrees known' d' ∧
      SameSetup (d.pushObject .null) d') :
    ∃ d', (inSlot body).run (u, d) = (.ok v, (u', d')) ∧
      Agrees (known'.setObject known.objects.length v) d' ∧ SameSetup d d' := by
  obtain ⟨d', hrun, hagrees, hsame⟩ := h
  exact ⟨_, run_inSlot hrun, hagrees.setObject hd.objects_length hv.symm, hsame.handlers, hsame.depth⟩

/-- A slot that is taken and filled with nothing in between is taken with the value. -/
lemma setObject_pushObject (d : Decoder) (v w : Amf3Value) :
    (d.pushObject w).setObject d.objects.length v = d.pushObject v := by
  simp [Decoder.pushObject, Decoder.setObject]

/-- The body of an externalizable object is what its reader takes. -/
lemma run_readExternalizable {t : TraitDef} {bs : List UInt8}
    (h : Registered buf d.externalizableHandlers t.className bs u) :
    (readExternalizable buf t).run (bs ++ u, d)
      = (.ok (.object t.className false [] [] (some bs)), (u, d)) := by
  obtain ⟨reader, hreader, hlen, hfits⟩ := h
  have hleft : (Eff.onFst (Eff.gets List.length) : DecodeM ℕ).run (bs ++ u, d)
      = (.ok (bs ++ u).length, (bs ++ u, d)) := rfl
  have hresult : (Eff.ofExcept (reader buf (buf.length - (bs ++ u).length)) : DecodeM ℕ).run
      (bs ++ u, d) = (.ok bs.length, (bs ++ u, d)) := by rw [hlen, Eff.run_ofExcept]
  rw [readExternalizable, Eff.run_bind_ok (run_gets _), hreader]
  refine (Eff.run_bind_ok hleft).trans ((Eff.run_bind_ok hresult).trans ?_)
  rw [if_neg (Nat.not_le_of_lt hfits)]
  exact Eff.run_bind_ok (Eff.run_onFst (Scan.bytes_append rfl))

/-- Members are read by their loop: the length of the input is enough fuel. -/
lemma run_readMembers {ps : List (String × Amf3Value)} {s t : List UInt8 × Decoder}
    (h : Eff.Collects (readMember (decodeFrom buf fuel)) s ps t) :
    (readMembers (decodeFrom buf fuel)).run s = (.ok ps, t) := by
  have hlen := h.length_le (fun s : List UInt8 × Decoder => s.1.length)
    (fun _ _ _ => readMember_shrinks (decodeFrom_advances fuel))
  exact (Eff.run_gets_bind _ _ _).trans (h.run (Nat.lt_succ_of_le hlen))

/-- Sealed members come back under their names, and the dynamic ones after them. -/
lemma run_readObjectBody (className : String) {isDynamic : Bool}
    {sealedMembers dynamicMembers : List (String × Amf3Value)} {s s₁ t : List UInt8 × Decoder}
    (hsealed : (Form.items (sealedMembers.map Prod.snd)).Read (decodeFrom buf fuel) s s₁)
    (hdynamic : (Form.dynamicPart isDynamic dynamicMembers).Read (decodeFrom buf fuel) s₁ t) :
    (readObjectBody (decodeFrom buf fuel)
        ⟨className, isDynamic, false, sealedMembers.map Prod.fst⟩).run s
      = (.ok (.object className isDynamic sealedMembers dynamicMembers none), t) := by
  have hzip : (sealedMembers.map Prod.fst).zip (sealedMembers.map Prod.snd) = sealedMembers := by
    rw [← List.unzip_fst, ← List.unzip_snd, List.zip_unzip]
  have hvalues : (Eff.times (decodeFrom buf fuel) (sealedMembers.map Prod.fst).length).run s
      = (.ok (sealedMembers.map Prod.snd), s₁) := by
    rw [List.length_map, ← List.length_map (f := Prod.snd)]
    exact hsealed
  have hmembers : (readDynamicMembers (decodeFrom buf fuel) isDynamic).run s₁
      = (.ok dynamicMembers, t) := hdynamic
  rw [readObjectBody, Eff.run_bind_ok hvalues, Eff.run_bind_ok hmembers, hzip]
  rfl

end Values

/-- **Tables**: what the encoder writes is read back, and the tables stay in step. -/
theorem Packs.read {buf : List UInt8} {handlers : String → Option ExternalizableReader}
    {known known' : Known} {u u' : List UInt8} {form : Form} {depth : ℕ}
    (h : Packs (Registered buf handlers) known u form depth known' u') {fuel : ℕ} {d : Decoder}
    (hhandlers : d.externalizableHandlers = handlers) (hd : Agrees known d) (hfuel : depth ≤ fuel)
    (hroom : d.depth + depth ≤ maxDecodeDepth) :
    ∃ d', form.Read (decodeFrom buf fuel) (u, d) (u', d') ∧ Agrees known' d' ∧ SameSetup d d' := by
  induction h generalizing fuel d with
  | atom h => exact read_value hfuel hroom fun f _ => ⟨d.enter, h.read, hd.enter, .refl _⟩
  | string h =>
      refine read_value hfuel hroom fun f _ => ?_
      obtain ⟨d', hrun, hagrees, hsame⟩ := h.read hd.enter
      refine ⟨d', ?_, hagrees, hsame⟩
      rw [run_decodeInner]
      exact Eff.run_bind_ok hrun
  | leaf h =>
      refine read_value hfuel hroom fun f _ => ⟨_, h.read, hd.enter.pushObject ?_, rfl, rfl⟩
      rintro v' ⟨⟩
      rfl
  | reference hv hidx h =>
      refine read_value hfuel hroom fun f _ => ⟨d.enter, ?_, hd.enter, .refl _⟩
      rw [run_decodeInner]
      exact run_reference hv hidx (hd.objects _ _ h)
  | array hlen _ _ ihassoc ihdense =>
      refine read_value hfuel hroom fun f hf => ?_
      obtain ⟨hfa, hfd⟩ := max_le_iff.mp hf
      have hdepth : d.enter.depth = d.depth + 1 := rfl
      -- the named entries come first on the wire, and the dense ones see their table
      obtain ⟨d₁, hassoc, hd₁, hsame₁⟩ := ihassoc (d := d.enter.pushObject .null) hhandlers
        (hd.enter.pushObject (by simp)) hfa (by simp only [Decoder.pushObject]; omega)
      obtain ⟨d₂, hdense, hd₂, hsame₂⟩ := ihdense (hsame₁.handlers.trans hhandlers) hd₁ hfd
        (by rw [hsame₁.depth]; simp only [Decoder.pushObject]; omega)
      rw [run_decodeInner]
      change ∃ d', (readArray _).run _ = _ ∧ _
      rw [readArray, writeLiteral, run_byReference_inline (literal_lt hlen) (and_one_literal _),
        literal_shift]
      refine read_inSlot hd.enter rfl ⟨d₂, ?_, hd₂, hsame₁.trans hsame₂⟩
      rw [Eff.run_bind_ok (run_readMembers hassoc), Eff.run_bind_ok hdense]
      rfl
  | externalizable hheader ht hbody =>
      refine read_value hfuel hroom fun f _ => ?_
      obtain ⟨d₁, htraits, hd₁, hsame₁⟩ := ht.read hd.enter
      rw [run_decodeInner]
      change ∃ d', (readObject _ _).run _ = _ ∧ _
      rw [readObject, run_byReference_inline hheader ht.header_odd, Eff.run_bind_ok htraits,
        if_pos rfl]
      have hhandlers₁ : d₁.externalizableHandlers = handlers := hsame₁.handlers.trans hhandlers
      rw [← hhandlers₁] at hbody
      refine ⟨_, run_inSlot (run_readExternalizable hbody), ?_, hsame₁.handlers, hsame₁.depth⟩
      rw [setObject_pushObject]
      refine hd₁.pushObject ?_
      rintro v' ⟨⟩
      rfl
  | @object _ className _ _ _ _ _ _ _ _ _ _ _ _ _ hheader ht _ _ ihsealed ihdynamic =>
      refine read_value hfuel hroom fun f hf => ?_
      obtain ⟨hfs, hfd⟩ := max_le_iff.mp hf
      obtain ⟨d₁, htraits, hd₁, hsame₁⟩ := ht.read hd.enter
      have hdepth : d₁.depth = d.depth + 1 := hsame₁.depth
      obtain ⟨d₂, hsealed, hd₂, hsame₂⟩ := ihsealed (d := d₁.pushObject .null)
        (hsame₁.handlers.trans hhandlers) (hd₁.pushObject (by simp)) hfs
        (by simp only [Decoder.pushObject]; omega)
      obtain ⟨d₃, hdynamic, hd₃, hsame₃⟩ := ihdynamic
        (hsame₂.handlers.trans (hsame₁.handlers.trans hhandlers)) hd₂ hfd
        (by rw [hsame₂.depth]; simp only [Decoder.pushObject]; omega)
      have hbody := run_readObjectBody className hsealed hdynamic
      -- the slot was taken empty, and now gets the object
      obtain ⟨d₄, hslot, hd₄, hsame₄⟩ := read_inSlot hd₁ rfl ⟨d₃, hbody, hd₃, hsame₂.trans hsame₃⟩
      refine ⟨d₄, ?_, hd₄, hsame₁.trans hsame₄⟩
      rw [run_decodeInner]
      change (readObject _ _).run _ = _
      rw [readObject, run_byReference_inline hheader ht.header_odd, Eff.run_bind_ok htraits]
      exact hslot
  | @vectorObject _ fixed objectTypeName items _ _ _ _ _ _ hlen hname _ ihitems =>
      refine read_value hfuel hroom fun f hf => ?_
      obtain ⟨d₁, hstring, hd₁, hsame₁⟩ := hname.read hd.enter
      have hdepth : d₁.depth = d.depth + 1 := hsame₁.depth
      obtain ⟨d₂, hitems, hd₂, hsame₂⟩ := ihitems (d := d₁.pushObject .null)
        (hsame₁.handlers.trans hhandlers) (hd₁.pushObject (by simp)) hf
        (by simp only [Decoder.pushObject]; omega)
      have hbody : (Eff.times (decodeFrom buf f) items.length >>= fun items =>
          pure (Amf3Value.vectorObject fixed objectTypeName items)).run _ = _ := Eff.run_bind_ok hitems
      obtain ⟨d₃, hslot, hd₃, hsame₃⟩ := read_inSlot hd₁ rfl ⟨d₂, hbody, hd₂, hsame₂⟩
      refine ⟨d₃, ?_, hd₃, hsame₁.trans hsame₃⟩
      rw [run_decodeInner]
      change (readVectorObject _).run _ = _
      rw [readVectorObject, writeLiteral,
        run_byReference_inline (literal_lt hlen) (and_one_literal _), literal_shift,
        Eff.run_bind_ok run_readU8, Eff.run_bind_ok hstring, decide_writeFlag]
      exact hslot
  | dictionary hlen _ ih =>
      refine read_value hfuel hroom fun f hf => ?_
      have hdepth : d.enter.depth = d.depth + 1 := rfl
      obtain ⟨d₁, hentries, hd₁, hsame₁⟩ := ih (d := d.enter.pushObject .null) hhandlers
        (hd.enter.pushObject (by simp)) hf (by simp only [Decoder.pushObject]; omega)
      rw [run_decodeInner]
      change ∃ d', (readDictionary _).run _ = _ ∧ _
      rw [readDictionary, writeLiteral,
        run_byReference_inline (literal_lt hlen) (and_one_literal _), literal_shift,
        Eff.run_bind_ok run_readU8, decide_writeFlag]
      exact read_inSlot hd.enter rfl ⟨d₁, (Eff.run_bind_ok hentries).trans rfl, hd₁, hsame₁⟩
  | memberEnd =>
      -- the empty name is a literal that no table keeps
      have hempty : (Utf8.encode "").length < 2 ^ 28 := by
        rw [Utf8.encode_empty]
        norm_num
      obtain ⟨d', hrun, hd', hsame⟩ := (Spells.literal hempty).read hd
      refine ⟨d', .done ?_, hd', hsame⟩
      rw [readMember, Eff.run_bind_ok hrun, if_pos rfl]
      rfl
  | member hk hkey _ _ ihv ihps =>
      obtain ⟨hfv, hfps⟩ := max_le_iff.mp hfuel
      obtain ⟨d₁, hstring, hd₁, hsame₁⟩ := hkey.read hd
      obtain ⟨d₂, hv, hd₂, hsame₂⟩ := ihv (hsame₁.handlers.trans hhandlers) hd₁ hfv
        (by rw [hsame₁.depth]; omega)
      have hsame := hsame₁.trans hsame₂
      obtain ⟨d₃, hps, hd₃, hsame₃⟩ := ihps (hsame.handlers.trans hhandlers) hd₂ hfps
        (by rw [hsame.depth]; omega)
      refine ⟨d₃, .more ?_ hps, hd₃, hsame.trans hsame₃⟩
      rw [readMember, Eff.run_bind_ok hstring, if_neg hk]
      exact Eff.run_bind_ok hv
  | sealedOnly => exact ⟨d, rfl, hd, .refl d⟩
  | dynamicMembers _ ih =>
      obtain ⟨d₁, hrun, hd₁, hsame₁⟩ := ih hhandlers hd hfuel hroom
      exact ⟨d₁, run_readMembers hrun, hd₁, hsame₁⟩
  | noItem => exact ⟨d, rfl, hd, .refl d⟩
  | item _ _ ihv ihvs =>
      obtain ⟨hfv, hfvs⟩ := max_le_iff.mp hfuel
      obtain ⟨d₁, hv, hd₁, hsame₁⟩ := ihv hhandlers hd hfv (by omega)
      obtain ⟨d₂, hvs, hd₂, hsame₂⟩ := ihvs (hsame₁.handlers.trans hhandlers) hd₁ hfvs
        (by rw [hsame₁.depth]; omega)
      exact ⟨d₂, Eff.run_times_succ hv hvs, hd₂, hsame₁.trans hsame₂⟩
  | noEntry => exact ⟨d, rfl, hd, .refl d⟩
  | entry _ _ _ ihk ihv ihes =>
      obtain ⟨hfkv, hfes⟩ := max_le_iff.mp hfuel
      obtain ⟨hfk, hfv⟩ := max_le_iff.mp hfkv
      obtain ⟨d₁, hk, hd₁, hsame₁⟩ := ihk hhandlers hd hfk (by omega)
      obtain ⟨d₂, hv, hd₂, hsame₂⟩ := ihv (hsame₁.handlers.trans hhandlers) hd₁ hfv
        (by rw [hsame₁.depth]; omega)
      have hsame := hsame₁.trans hsame₂
      obtain ⟨d₃, hes, hd₃, hsame₃⟩ := ihes (hsame.handlers.trans hhandlers) hd₂ hfes
        (by rw [hsame.depth]; omega)
      -- a key that is a value itself comes before what it maps to
      have hentry : (readEntry (decodeFrom buf fuel)).run _ = _ :=
        (Eff.run_bind_ok hk).trans (Eff.run_bind_ok hv)
      exact ⟨d₃, Eff.run_times_succ hentry hes, hd₃, hsame.trans hsame₃⟩

/-! ### Packets -/

lemma Agrees.empty (handlers : String → Option ExternalizableReader) :
    Agrees {} { externalizableHandlers := handlers } where
  strings_length := rfl
  strings idx s h := by simp at h
  objects_length := rfl
  objects idx v h := by simp at h
  traits_length := rfl
  traits idx t h := by simp at h

/-- A loop over a packet gives the values that a counted loop reads from it to its end. -/
lemma collects_of_times {buf : List UInt8} {s t : List UInt8 × Decoder} {vs : List Amf3Value}
    (h : (Eff.times (Decoder.decode buf) vs.length).run s = (.ok vs, t)) (ht : t.1 = []) :
    Eff.Collects (decodeNext buf) s vs t := by
  induction vs generalizing s with
  | nil =>
      cases h
      obtain ⟨u, d⟩ := t
      cases ht
      exact .done rfl
  | cons v vs ih =>
      obtain ⟨v', vs', s', heq, hv, hvs⟩ := Eff.run_times_succ_eq_ok.mp h
      cases heq
      refine .more ?_ (ih hvs)
      have hlt := decodeFrom_shrinks hv
      obtain ⟨u, d⟩ := s
      cases u with
      | nil => exact absurd hlt (Nat.not_lt_zero _)
      | cons b u => exact Eff.run_bind_ok hv

/-- **References**: a packet in which strings, class layouts and finished values are replaced by their
indices decodes to the values in full, with one decoder. -/
theorem decode_packs {handlers : String → Option ExternalizableReader} {buf : List UInt8}
    {vs : List Amf3Value} {depth : ℕ} {known : Known}
    (h : Packs (Registered buf handlers) {} buf (.items vs) depth known [])
    (hdepth : depth ≤ maxDecodeDepth) :
    (∃ d, (Eff.times (Decoder.decode buf) vs.length).run (buf, { externalizableHandlers := handlers })
        = (.ok vs, ([], d))) ∧
      (handlers = (fun _ => none) → decodeAll buf = .ok vs) := by
  obtain ⟨d, hrun, -, -⟩ := h.read rfl (.empty handlers) (Nat.le_succ_of_le hdepth)
    (by simpa using hdepth)
  refine ⟨⟨d, hrun⟩, ?_⟩
  rintro rfl
  have hcollects := collects_of_times hrun rfl
  have hlen : vs.length ≤ buf.length := by
    refine hcollects.length_le (fun s : List UInt8 × Decoder => s.1.length) ?_
    intro s t v hnext
    obtain ⟨u, s₁, hu, hnext⟩ := Eff.run_bind_eq_ok.mp hnext
    cases hu
    split_ifs at hnext
    · cases hnext
    · obtain ⟨w, s₂, hw, hnext⟩ := Eff.run_bind_eq_ok.mp hnext
      cases hnext
      exact decodeFrom_shrinks hw
  rw [decodeAll, hcollects.run (Nat.lt_succ_of_le hlen)]

/-- An object, a second one whose layout and only member are references, and the name of that member
as a string by reference. -/
theorem decode_packs_shared :
    let inner : Amf3Value := .object "" false [("a", .null)] [] none
    let outer : Amf3Value := .object "" false [("a", inner)] [] none
    decodeAll [0x0A, 0x13, 0x01, 0x03, 0x61, 0x01, 0x0A, 0x01, 0x0A, 0x00, 0x06, 0x00]
      = .ok [inner, outer, .string "a"] := by
  intro inner outer
  let body := Registered
    [0x0A, 0x13, 0x01, 0x03, 0x61, 0x01, 0x0A, 0x01, 0x0A, 0x00, 0x06, 0x00] fun _ => none
  let t : TraitDef := ⟨"", false, false, ["a"]⟩
  have ht : t.Writable := ⟨by decide, fun h => by cases h⟩
  have hempty : (Utf8.encode "").length < 2 ^ 28 := by
    rw [Utf8.encode_empty]
    norm_num
  -- the strings: a literal "" leaves the table alone, and "a" takes its first slot
  have hname (u : List UInt8) : Spells {} (0x01 :: u) "" {} u := .literal hempty
  have hmember (u : List UInt8) : Spells {} (0x03 :: 0x61 :: u) "a" ⟨[some "a"], [], []⟩ u :=
    .literal (show (Utf8.encode "a").length < 2 ^ 28 by decide)
  have hlayout (u : List UInt8) :
      Layout {} 0x13 (0x01 :: 0x03 :: 0x61 :: u) t ⟨[some "a"], [], [some t]⟩ u := by
    have hheader : t.header = 0x13 := by decide
    rw [← hheader]
    exact .inline ht (hname _) (.cons (hmember u) .nil)
  have hshared (u : List UInt8) : Layout ⟨[some "a"], [some inner], [some t]⟩ 0x01 u t
      ⟨[some "a"], [some inner], [some t]⟩ u := .reference (show 0 < 2 ^ 27 by decide) rfl
  have hnull (u : List UInt8) : Packs body ⟨[some "a"], [none], [some t]⟩ (0x01 :: u)
      (.items [.null]) 1 ⟨[some "a"], [none], [some t]⟩ u := .item (.atom .null) .noItem
  have hinner (u : List UInt8) : Packs body {} (0x0A :: 0x13 :: 0x01 :: 0x03 :: 0x61 :: 0x01 :: u)
      (.value (.object "" false [("a", .null)] [] none)) 2 ⟨[some "a"], [some inner], [some t]⟩ u :=
    @Packs.object body {} "" false [("a", .null)] [] 0x13 _ _ _ _ _ _ _ _ _ (by decide) (hlayout _)
      (hnull u) .sealedOnly
  -- the second object names the first by its slot
  have hreference (u : List UInt8) : Packs body ⟨[some "a"], [some inner, none], [some t]⟩
      (0x0A :: 0x00 :: u) (.items [inner]) 1 ⟨[some "a"], [some inner, none], [some t]⟩ u :=
    .item (.reference rfl (show 0 < 2 ^ 28 by decide) rfl) .noItem
  have houter (u : List UInt8) : Packs body ⟨[some "a"], [some inner], [some t]⟩
      (0x0A :: 0x01 :: 0x0A :: 0x00 :: u) (.value (.object "" false [("a", inner)] [] none)) 2
      ⟨[some "a"], [some inner, some outer], [some t]⟩ u :=
    @Packs.object body _ "" false [("a", inner)] [] 0x01 _ _ _ _ _ _ _ _ _ (by decide) (hshared _)
      (hreference u) .sealedOnly
  have hstring : Packs body ⟨[some "a"], [some inner, some outer], [some t]⟩ [0x06, 0x00]
      (.value (.string "a")) 1 ⟨[some "a"], [some inner, some outer], [some t]⟩ [] :=
    .string (.reference (show 0 < 2 ^ 28 by decide) rfl)
  have hpacks := Packs.item (hinner _) (.item (houter _) (.item hstring .noItem))
  exact (decode_packs hpacks (by decide)).2 rfl

end Rtmp.Amf3
