import Rtmp.Amf3.References

/-!
Encoding and decoding AMF3.

The literal encoder is one of the encoders of `Packs`: it never uses a table, so it need not know
what the decoder's tables hold.

* `Amf3Value.Encodable`: the values the format can carry;
* `Handled`: wherever the encoder puts an externalizable body, the registered reader takes it;
* `packs_encode`: the literal encoder follows the rules;
* `decode_encode` (**round trip**): a decoder in any state reads an encoded value back and stops at
  its end;
* `decodeAll_encodeItems`: a packet of encoded values decodes to these.
-/

namespace Rtmp

namespace Amf3Value

mutual

/-- Integers of twenty-nine bits, lengths and counts that fit their headers, no empty keys, and
members only where the class layout allows them. -/
def Encodable : Amf3Value → Prop
  | integer n => -2 ^ 28 ≤ n.toInt ∧ n.toInt < 2 ^ 28
  | string s | xmlDocument s | xml s => (Utf8.encode s).length < 2 ^ 28
  | byteArray bytes => bytes.length < 2 ^ 28
  | vectorInt _ items => items.length < 2 ^ 28
  | vectorUInt _ items => items.length < 2 ^ 28
  | vectorDouble _ items => items.length < 2 ^ 28
  | array dense assoc => dense.length < 2 ^ 28 ∧ EncodableList dense ∧ EncodableMembers assoc
  | object className isDynamic sealedMembers dynamicMembers (some _) =>
      (Utf8.encode className).length < 2 ^ 28 ∧ isDynamic = false ∧ sealedMembers = [] ∧
        dynamicMembers = []
  | object className isDynamic sealedMembers dynamicMembers none =>
      ((Utf8.encode className).length < 2 ^ 28 ∧ sealedMembers.length < 2 ^ 25 ∧
        (isDynamic = false → dynamicMembers = [])) ∧
        EncodableSealed sealedMembers ∧ EncodableMembers dynamicMembers
  | vectorObject _ objectTypeName items =>
      ((Utf8.encode objectTypeName).length < 2 ^ 28 ∧ items.length < 2 ^ 28) ∧ EncodableList items
  | dictionary _ entries => entries.length < 2 ^ 28 ∧ EncodableEntries entries
  | _ => True

/-- Members that end with an empty key have none themselves. -/
def EncodableMembers : List (String × Amf3Value) → Prop
  | [] => True
  | (k, v) :: ps =>
      (k ≠ "" ∧ (Utf8.encode k).length < 2 ^ 28) ∧ Encodable v ∧ EncodableMembers ps

/-- A sealed member may have any name. -/
def EncodableSealed : List (String × Amf3Value) → Prop
  | [] => True
  | (k, v) :: ps => (Utf8.encode k).length < 2 ^ 28 ∧ Encodable v ∧ EncodableSealed ps

def EncodableList : List Amf3Value → Prop
  | [] => True
  | v :: vs => Encodable v ∧ EncodableList vs

def EncodableEntries : List (Amf3Value × Amf3Value) → Prop
  | [] => True
  | (k, v) :: es => Encodable k ∧ Encodable v ∧ EncodableEntries es

end

end Amf3Value

namespace Amf3

open Amf3Value

mutual

/-- `Handled body v u`: when `u` follows the encoding of `v`, every externalizable body in it is taken
by the reader of its class. -/
def Handled (body : String → List UInt8 → List UInt8 → Prop) : Amf3Value → List UInt8 → Prop
  | .array dense assoc, u => HandledMembers body assoc (encodeItems dense ++ u) ∧
      HandledList body dense u
  | .object className _ _ _ (some bs), u => body className bs u
  | .object _ isDynamic sealedMembers dynamicMembers none, u =>
      HandledSealed body sealedMembers
        ((if isDynamic then encodeMembers dynamicMembers else []) ++ u) ∧
        HandledMembers body dynamicMembers u
  | .vectorObject _ _ items, u => HandledList body items u
  | .dictionary _ entries, u => HandledEntries body entries u
  | _, _ => True

def HandledMembers (body : String → List UInt8 → List UInt8 → Prop) :
    List (String × Amf3Value) → List UInt8 → Prop
  | [], _ => True
  | (_, v) :: ps, u => Handled body v (encodeMembers ps ++ u) ∧ HandledMembers body ps u

def HandledSealed (body : String → List UInt8 → List UInt8 → Prop) :
    List (String × Amf3Value) → List UInt8 → Prop
  | [], _ => True
  | (_, v) :: ps, u => Handled body v (encodeValues ps ++ u) ∧ HandledSealed body ps u

def HandledList (body : String → List UInt8 → List UInt8 → Prop) :
    List Amf3Value → List UInt8 → Prop
  | [], _ => True
  | v :: vs, u => Handled body v (encodeItems vs ++ u) ∧ HandledList body vs u

def HandledEntries (body : String → List UInt8 → List UInt8 → Prop) :
    List (Amf3Value × Amf3Value) → List UInt8 → Prop
  | [], _ => True
  | (k, v) :: es, u =>
      Handled body k (encode v ++ (encodeEntries es ++ u)) ∧ Handled body v (encodeEntries es ++ u) ∧
        HandledEntries body es u

end

/-! ### The literal encoder follows the rules -/

/-- Member names in a row. -/
lemma spellsAll_names (known : Known) (u : List UInt8) {ps : List (String × Amf3Value)}
    (h : EncodableSealed ps) : ∃ known', SpellsAll known
    ((ps.map fun p => writeU29String p.1).flatten ++ u)
      (ps.map Prod.fst) known' u := by
  induction ps generalizing known with
  | nil => exact ⟨known, .nil⟩
  | cons p ps ih =>
      obtain ⟨hk, -, hps⟩ := h
      obtain ⟨known', hrest⟩ := ih (known.noteString p.1) hps
      refine ⟨known', ?_⟩
      rw [List.map_cons, List.map_cons, List.flatten_cons, List.append_assoc]
      exact .cons (.literal hk) hrest

lemma writeU29String_empty : writeU29String "" = writeU29 1 := by
  rw [writeU29String, Utf8.encode_empty, List.append_nil]
  rfl

lemma objectHeader_lt {isDynamic : Bool} {n : ℕ} (h : n < 2 ^ 25) :
    objectHeader isDynamic n < 2 ^ 29 := by
  rw [objectHeader_eq]
  split_ifs <;> omega

/-- A form is written from `u` to `u'`, no deeper than `height`. -/
def Packed (body : String → List UInt8 → List UInt8 → Prop) (known : Known) (u : List UInt8)
    (form : Form) (height : ℕ) (u' : List UInt8) : Prop :=
  ∃ depth known', depth ≤ height ∧ Packs body known u form depth known' u'

lemma packed_leaf {body : String → List UInt8 → List UInt8 → Prop} {known : Known}
    {v : Amf3Value} {bs u : List UInt8} (h : Leaf v bs) :
    Packed body known (bs ++ u) (.value v) 1 u := ⟨1, _, Nat.le_refl 1, .leaf h⟩

lemma packed_atom {body : String → List UInt8 → List UInt8 → Prop} {known : Known}
    {v : Amf3Value} {bs u : List UInt8} (h : Atom v bs) :
    Packed body known (bs ++ u) (.value v) 1 u := ⟨1, _, Nat.le_refl 1, .atom h⟩

mutual

/-- An encoded value is a writing of it, whatever the decoder's tables hold. -/
theorem packs_encode {body : String → List UInt8 → List UInt8 → Prop} (known : Known)
    (u : List UInt8) : ∀ v : Amf3Value, v.Encodable → Handled body v u →
      Packed body known (encode v ++ u) (.value v) v.height u
  | .undefined, _, _ => packed_atom .undefined
  | .null, _, _ => packed_atom .null
  | .boolean false, _, _ => packed_atom (.boolean false)
  | .boolean true, _, _ => packed_atom (.boolean true)
  | .integer n, h, _ => by
      have hrange : -(1 <<< 28) ≤ n.toInt ∧ n.toInt < 1 <<< 28 := h
      rw [encode, if_pos hrange]
      exact packed_atom (.integer h.1 h.2)
  | .double n, _, _ => packed_atom (.double n)
  | .string s, h, _ => ⟨1, _, Nat.le_refl 1, .string (.literal h)⟩
  | .xmlDocument _, h, _ => packed_leaf (.xmlDocument h)
  | .xml _, h, _ => packed_leaf (.xml h)
  | .date millis, _, _ => packed_leaf (.date millis)
  | .byteArray _, h, _ => packed_leaf (.byteArray h)
  | .vectorInt fixed _, h, _ => packed_leaf (.vectorInt fixed h)
  | .vectorUInt fixed _, h, _ => packed_leaf (.vectorUInt fixed h)
  | .vectorDouble fixed _, h, _ => packed_leaf (.vectorDouble fixed h)
  | .array dense assoc, h, hu => by
      -- the tables grow through the named entries before the dense ones
      obtain ⟨hlen, hdense, hassoc⟩ := h
      obtain ⟨n₁, known₁, hn₁, hpacks₁⟩ := packs_encodeMembers (known.pushObject none) _ assoc
        hassoc hu.1
      obtain ⟨n₂, known₂, hn₂, hpacks₂⟩ := packs_encodeItems (known₁) _ dense hdense hu.2
      have hdepth : max n₁ n₂ + 1 ≤ (Amf3Value.array dense assoc).height := by
        rw [height, max_comm]
        exact Nat.succ_le_succ (max_le_max hn₂ hn₁)
      have hpacks := Packs.array hlen hpacks₁ hpacks₂
      simp only [encode, List.cons_append, List.append_assoc]
      exact ⟨_, _, hdepth, hpacks⟩
  | .object className _ _ _ (some bs), h, hu => by
      obtain ⟨hlen, rfl, rfl, rfl⟩ := h
      -- nothing but a name and the body it wrote itself
      have ht : TraitDef.Writable ⟨className, false, true, []⟩ :=
        ⟨Nat.two_pow_pos 25, fun _ => ⟨rfl, rfl⟩⟩
      have hlayout : Layout known 0b0111 (writeU29String className ++ (bs ++ u))
          ⟨className, false, true, []⟩ ((known.noteString className).noteTrait _) (bs ++ u) :=
        .inline ht (.literal hlen) .nil
      have hpacks := Packs.externalizable (by decide) hlayout hu
      simp only [encode, List.cons_append, List.append_assoc]
      exact ⟨1, _, Nat.succ_le_succ (Nat.zero_le _), hpacks⟩
  | .object className isDynamic sealedMembers dynamicMembers none, h, hu => by
      obtain ⟨⟨hlen, hcount, hnone⟩, hsealed, hmembers⟩ := h
      obtain ⟨known₁, hnames⟩ := spellsAll_names (known.noteString className)
        (encodeValues sealedMembers
          ++ ((if isDynamic then encodeMembers dynamicMembers else []) ++ u)) hsealed
      have ht : TraitDef.Writable ⟨className, isDynamic, false, sealedMembers.map Prod.fst⟩ :=
        ⟨by rwa [List.length_map], fun hext => by cases hext⟩
      obtain ⟨n₁, known₂, hn₁, hpacks₁⟩ := packs_encodeValues
        ((known₁.noteTrait _).pushObject none) _ sealedMembers hsealed hu.1
      -- without the flag there are no such members
      have hdynamic : Packed body known₂ ((if isDynamic then encodeMembers dynamicMembers else []) ++ u)
          (.dynamicPart isDynamic dynamicMembers) (heightPairs dynamicMembers) u := by
        cases isDynamic with
        | false =>
            rw [hnone rfl]
            exact ⟨0, known₂, Nat.zero_le _, .sealedOnly⟩
        | true =>
            obtain ⟨n₂, known₃, hn₂, hpacks₂⟩ :=
              packs_encodeMembers known₂ u dynamicMembers hmembers hu.2
            exact ⟨n₂, known₃, hn₂, .dynamicMembers hpacks₂⟩
      obtain ⟨n₂, known₃, hn₂, hpacks₂⟩ := hdynamic
      have hlayout := Layout.inline ht (.literal hlen) hnames
      -- the header has the flags and the count that the traits say
      have hheader : TraitDef.header ⟨className, isDynamic, false, sealedMembers.map Prod.fst⟩
          = objectHeader isDynamic sealedMembers.length := by simp [TraitDef.header]
      rw [hheader] at hlayout
      have hpacks := Packs.object (objectHeader_lt hcount) hlayout hpacks₁ hpacks₂
      simp only [encode, List.cons_append, List.append_assoc]
      exact ⟨_, _, Nat.succ_le_succ (max_le_max hn₁ hn₂), hpacks⟩
  | .vectorObject fixed objectTypeName items, h, hu => by
      obtain ⟨⟨hname, hlen⟩, hitems⟩ := h
      obtain ⟨n, known', hn, hpacks⟩ := packs_encodeItems
        ((known.noteString objectTypeName).pushObject none) _ items hitems hu
      have hdepth : n + 1 ≤ (Amf3Value.vectorObject fixed objectTypeName items).height :=
        Nat.succ_le_succ hn
      simp only [encode, List.cons_append, List.append_assoc]
      exact ⟨_, _, hdepth, .vectorObject hlen (.literal hname) hpacks⟩
  | .dictionary weakKeys entries, h, hu => by
      obtain ⟨hlen, hentries⟩ := h
      obtain ⟨n, known', hn, hpacks⟩ := packs_encodeEntries (known.pushObject none) _ entries
        hentries hu
      have hdepth : n + 1 ≤ (Amf3Value.dictionary weakKeys entries).height := Nat.succ_le_succ hn
      simp only [encode, List.cons_append, List.append_assoc]
      exact ⟨_, _, hdepth, .dictionary hlen hpacks⟩

theorem packs_encodeMembers {body : String → List UInt8 → List UInt8 → Prop} (known : Known)
    (u : List UInt8) : ∀ ps : List (String × Amf3Value), EncodableMembers ps →
    HandledMembers body ps u →
      Packed body known (encodeMembers ps ++ u) (.members ps) (heightPairs ps) u
  | [], _, _ => by
      rw [encodeMembers, ← writeU29String_empty]
      exact ⟨0, known, Nat.le_refl 0, .memberEnd⟩
  | (k, v) :: ps, h, hu => by
      obtain ⟨⟨hk, hlen⟩, hv, hps⟩ := h
      obtain ⟨n₁, known₁, hn₁, hpacks₁⟩ := packs_encode (known.noteString k) _ v hv hu.1
      obtain ⟨n₂, known₂, hn₂, hpacks₂⟩ := packs_encodeMembers (known₁) _ ps hps hu.2
      have hpacks := Packs.member hk (.literal hlen) hpacks₁ hpacks₂
      simp only [encodeMembers, List.append_assoc]
      exact ⟨_, _, max_le_max hn₁ hn₂, hpacks⟩

/-- The values of sealed members, whose names were written before. -/
theorem packs_encodeValues {body : String → List UInt8 → List UInt8 → Prop} (known : Known)
    (u : List UInt8) : ∀ ps : List (String × Amf3Value), EncodableSealed ps → HandledSealed body ps u →
      Packed body known (encodeValues ps ++ u) (.items (ps.map Prod.snd)) (heightPairs ps) u
  | [], _, _ => ⟨0, known, Nat.le_refl 0, .noItem⟩
  | (_, v) :: ps, h, hu => by
      obtain ⟨-, hv, hps⟩ := h
      obtain ⟨n₁, known₁, hn₁, hpacks₁⟩ := packs_encode (known) _ v hv hu.1
      obtain ⟨n₂, known₂, hn₂, hpacks₂⟩ := packs_encodeValues (known₁) _ ps hps hu.2
      have hpacks := Packs.item hpacks₁ hpacks₂
      simp only [encodeValues, List.append_assoc]
      exact ⟨_, _, max_le_max hn₁ hn₂, hpacks⟩

theorem packs_encodeItems {body : String → List UInt8 → List UInt8 → Prop} (known : Known)
    (u : List UInt8) : ∀ vs : List Amf3Value, EncodableList vs → HandledList body vs u →
      Packed body known (encodeItems vs ++ u) (.items vs) (heightList vs) u
  | [], _, _ => ⟨0, known, Nat.le_refl 0, .noItem⟩
  | v :: vs, h, hu => by
      obtain ⟨hv, hvs⟩ := h
      obtain ⟨n₁, known₁, hn₁, hpacks₁⟩ := packs_encode (known) _ v hv hu.1
      obtain ⟨n₂, known₂, hn₂, hpacks₂⟩ := packs_encodeItems (known₁) _ vs hvs hu.2
      have hpacks := Packs.item hpacks₁ hpacks₂
      simp only [encodeItems, List.append_assoc]
      exact ⟨_, _, max_le_max hn₁ hn₂, hpacks⟩

theorem packs_encodeEntries {body : String → List UInt8 → List UInt8 → Prop} (known : Known)
    (u : List UInt8) : ∀ es : List (Amf3Value × Amf3Value), EncodableEntries es →
    HandledEntries body es u →
      Packed body known (encodeEntries es ++ u) (.entries es) (heightEntries es) u
  | [], _, _ => ⟨0, known, Nat.le_refl 0, .noEntry⟩
  | (k, v) :: es, h, hu => by
      obtain ⟨hk, hv, hes⟩ := h
      obtain ⟨n₁, known₁, hn₁, hpacks₁⟩ := packs_encode (known) _ k hk hu.1
      obtain ⟨n₂, known₂, hn₂, hpacks₂⟩ := packs_encode (known₁) _ v hv hu.2.1
      obtain ⟨n₃, known₃, hn₃, hpacks₃⟩ := packs_encodeEntries (known₂) _ es hes hu.2.2
      have hpacks := Packs.entry hpacks₁ hpacks₂ hpacks₃
      simp only [encodeEntries, List.append_assoc]
      exact ⟨_, _, max_le_max (max_le_max hn₁ hn₂) hn₃, hpacks⟩

end

/-! ### Whole values and packets -/

/-- A decoder's tables, of which the encoder knows nothing but their lengths. -/
def Known.unknown (d : Decoder) : Known where
  strings := d.strings.map fun _ => none
  objects := d.objects.map fun _ => none
  traits := d.traits.map fun _ => none

lemma getElem?_map_none_ne {α β : Type} (table : List α) (idx : ℕ) (b : β) :
    (table.map fun _ => (none : Option β))[idx]? ≠ some (some b) := by
  rw [List.getElem?_map]
  cases table[idx]? <;> simp

lemma Agrees.unknown (d : Decoder) : Agrees (.unknown d) d where
  strings_length := (List.length_map _).symm
  strings idx s h := absurd h (getElem?_map_none_ne d.strings idx s)
  objects_length := (List.length_map _).symm
  objects idx v h := absurd h (getElem?_map_none_ne d.objects idx v)
  traits_length := (List.length_map _).symm
  traits idx t h := absurd h (getElem?_map_none_ne d.traits idx t)

/-- A decoder in any state, at any place of its input, reads an encoded value back and stops at its
end. -/
theorem decode_encode {buf after : List UInt8} {v : Amf3Value} {d : Decoder} (hv : v.Encodable)
    (hbodies : Handled (Registered buf d.externalizableHandlers) v after)
    (hheight : d.depth + v.height ≤ maxDecodeDepth) :
    ∃ d', (Decoder.decode buf).run (encode v ++ after, d) = (.ok v, (after, d')) ∧
      SameSetup d d' := by
  obtain ⟨n, known', hn, hpacks⟩ := packs_encode (.unknown d) after v hv hbodies
  have hroom : d.depth + n ≤ maxDecodeDepth := (Nat.add_le_add_left hn _).trans hheight
  obtain ⟨d', hrun, -, hsame⟩ := hpacks.read rfl (.unknown d)
    (Nat.le_succ_of_le (Nat.le_of_add_left_le hroom)) hroom
  exact ⟨d', hrun, hsame⟩

lemma encodableList_of_forall {vs : List Amf3Value} (h : ∀ v ∈ vs, v.Encodable) :
    EncodableList vs := by
  induction vs with
  | nil => trivial
  | cons v vs ih =>
      exact ⟨h v List.mem_cons_self, ih fun w hw => h w (List.mem_cons_of_mem _ hw)⟩

lemma heightList_le {vs : List Amf3Value} {n : ℕ} (h : ∀ v ∈ vs, v.height ≤ n) :
    heightList vs ≤ n := by
  induction vs with
  | nil => exact Nat.zero_le _
  | cons v vs ih =>
      exact max_le (h v List.mem_cons_self) (ih fun w hw => h w (List.mem_cons_of_mem _ hw))

/-- Without registered readers no externalizable body is taken. -/
lemma registered_none (buf : List UInt8) :
    Registered buf (fun _ => none) = fun _ _ _ => False := by
  funext className bs u
  simp [Registered]

/-- **Round trip**: a decoder at depth zero, whatever its tables hold, reads an encoded value back
and stops at its end; and a packet of encoded values without externalizable bodies decodes to these
values. -/
theorem decode_encode_decodeAll :
    (∀ (before after : List UInt8) (v : Amf3Value) (d : Decoder), v.Encodable →
      Handled (Registered (before ++ (encode v ++ after)) d.externalizableHandlers) v after →
      v.height ≤ maxDecodeDepth → d.depth = 0 →
      ∃ d', (Decoder.decode (before ++ (encode v ++ after))).run (encode v ++ after, d)
        = (.ok v, (after, d'))) ∧
    ∀ vs : List Amf3Value, (∀ v ∈ vs, v.Encodable ∧ v.height ≤ maxDecodeDepth) →
      HandledList (fun _ _ _ => False) vs [] → decodeAll (encodeItems vs) = .ok vs := by
  constructor
  · intro before after v d hv hbodies hheight hdepth
    obtain ⟨d', hrun, -⟩ := decode_encode hv hbodies (by rwa [hdepth, Nat.zero_add])
    exact ⟨d', hrun⟩
  · intro vs hvs hbodies
    rw [← registered_none (encodeItems vs)] at hbodies
    obtain ⟨n, known, hn, hpacks⟩ := packs_encodeItems {} [] vs
      (encodableList_of_forall fun v hv => (hvs v hv).1) hbodies
    rw [List.append_nil] at hpacks
    exact (decode_packs hpacks (hn.trans (heightList_le fun v hv => (hvs v hv).2))).2 rfl

/-- An externalizable object under a decoder whose string table is not empty, and a packet of an array
and a string. -/
theorem decode_encode_decodeAll_external :
    let reader : ExternalizableReader := fun _ _ => .ok 2
    let d : Decoder := { strings := ["x"], externalizableHandlers := fun _ => some reader }
    let v : Amf3Value := .object "C" false [] [] (some [7, 8])
    let vs : List Amf3Value := [.array [.null] [("a", .boolean true)], .string "a"]
    (∃ d', (Decoder.decode (encode v ++ [1])).run (encode v ++ [1], d) = (.ok v, ([1], d'))) ∧
      decodeAll (encodeItems vs) = .ok vs := by
  intro reader d v vs
  obtain ⟨hone, hall⟩ := decode_encode_decodeAll
  have hv : v.Encodable := ⟨by decide, rfl, rfl, rfl⟩
  have harray : (Amf3Value.array [.null] [("a", .boolean true)]).Encodable :=
    ⟨by decide, ⟨trivial, trivial⟩, ⟨by decide, by decide⟩, trivial, trivial⟩
  have hstring : (Amf3Value.string "a").Encodable := by
    have hlen : (Utf8.encode "a").length < 2 ^ 28 := by decide
    exact hlen
  refine ⟨hone [] [1] v d hv ⟨reader, rfl, rfl, by decide⟩ (by decide) rfl, hall vs ?_ ?_⟩
  · intro w hw
    rcases List.mem_pair.mp hw with rfl | rfl
    · exact ⟨harray, by decide⟩
    · exact ⟨hstring, by decide⟩
  · exact ⟨⟨⟨trivial, trivial⟩, trivial, trivial⟩, trivial, trivial⟩

end Amf3

end Rtmp
