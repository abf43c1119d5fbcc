import Rtmp.Amf.RoundTrip
import Rtmp.Amf3.RoundTrip
import Rtmp.Message.Command

/-!
AMF3 values in the bodies of messages, in every framing that is accepted.

* `Amf3Value.Literal`: the values that the literal encoder writes so that they can be read back;
* `avmplus`, `legacyFrame`: a value behind the switch to AMF3, and a value that may do without;
* `Mixed`: an AMF0 value in which some positions hold AMF3 values, and the AMF0 value it is read as;
* `reads_mixed`: a mixed value is in the AMF0 grammar;
* `framings_agree` (**framings**): the bodies of the AMF3 message types are read as the same values
  in the framing with a format selector and in the older ones, and so are embedded AMF3 values.
-/

namespace Rtmp

namespace Amf3Value

mutual

/-- No object in the value has a body of its own format. -/
def Transparent : Amf3Value → Prop
  | array dense assoc => TransparentList dense ∧ TransparentPairs assoc
  | object _ _ sealedMembers dynamicMembers body =>
      body = none ∧ TransparentPairs sealedMembers ∧ TransparentPairs dynamicMembers
  | vectorObject _ _ items => TransparentList items
  | dictionary _ entries => TransparentEntries entries
  | _ => True

def TransparentPairs : List (String × Amf3Value) → Prop
  | [] => True
  | (_, v) :: ps => Transparent v ∧ TransparentPairs ps

def TransparentList : List Amf3Value → Prop
  | [] => True
  | v :: vs => Transparent v ∧ TransparentList vs

def TransparentEntries : List (Amf3Value × Amf3Value) → Prop
  | [] => True
  | (k, v) :: es => Transparent k ∧ Transparent v ∧ TransparentEntries es

end

/-- The value can be written literally and read back without registered readers. -/
structure Literal (v : Amf3Value) : Prop where
  encodable : v.Encodable
  transparent : v.Transparent
  height : v.height ≤ maxDecodeDepth

def isDictionary : Amf3Value → Bool
  | dictionary _ _ => true
  | _ => false

end Amf3Value

namespace Amf3

open Amf3Value

section Handled

variable {body : String → List UInt8 → List UInt8 → Prop}

mutual

/-- Without bodies of their own format no reader is asked. -/
lemma handled_of_transparent (u : List UInt8) : ∀ v : Amf3Value, v.Transparent → Handled body v u
  | .array dense assoc, h =>
      ⟨handledMembers_of_transparent _ assoc h.2, handledList_of_transparent u dense h.1⟩
  | .object _ _ _ _ (some _), h => absurd h.1 (Option.some_ne_none _)
  | .object _ _ sealedMembers dynamicMembers none, h =>
      ⟨handledSealed_of_transparent _ sealedMembers h.2.1,
        handledMembers_of_transparent u dynamicMembers h.2.2⟩
  | .vectorObject _ _ items, h => handledList_of_transparent u items h
  | .dictionary _ entries, h => handledEntries_of_transparent u entries h
  | .undefined, _ | .null, _ | .boolean _, _ | .integer _, _ | .double _, _ | .string _, _
  | .xmlDocument _, _ | .xml _, _ | .date _, _ | .byteArray _, _ | .vectorInt _ _, _
  | .vectorUInt _ _, _ | .vectorDouble _ _, _ => trivial

lemma handledMembers_of_transparent (u : List UInt8) :
    ∀ ps : List (String × Amf3Value), TransparentPairs ps → HandledMembers body ps u
  | [], _ => trivial
  | (_, v) :: ps, h => ⟨handled_of_transparent _ v h.1, handledMembers_of_transparent u ps h.2⟩

lemma handledSealed_of_transparent (u : List UInt8) :
    ∀ ps : List (String × Amf3Value), TransparentPairs ps → HandledSealed body ps u
  | [], _ => trivial
  | (_, v) :: ps, h => ⟨handled_of_transparent _ v h.1, handledSealed_of_transparent u ps h.2⟩

lemma handledList_of_transparent (u : List UInt8) :
    ∀ vs : List Amf3Value, TransparentList vs → HandledList body vs u
  | [], _ => trivial
  | v :: vs, h => ⟨handled_of_transparent _ v h.1, handledList_of_transparent u vs h.2⟩

lemma handledEntries_of_transparent (u : List UInt8) :
    ∀ es : List (Amf3Value × Amf3Value), TransparentEntries es → HandledEntries body es u
  | [], _ => trivial
  | (k, v) :: es, h =>
      ⟨handled_of_transparent _ k h.1, handled_of_transparent _ v h.2.1,
        handledEntries_of_transparent u es h.2.2⟩

end

end Handled

/-- A decoder at depth zero reads a literal value back, wherever it stands. -/
lemma decode_literal {buf after : List UInt8} {v : Amf3Value} {d : Decoder} (hv : v.Literal)
    (hdepth : d.depth = 0) :
    ∃ d', (Decoder.decode buf).run (encode v ++ after, d) = (.ok v, (after, d')) ∧ d'.depth = 0 := by
  have hroom : d.depth + v.height ≤ maxDecodeDepth := by
    rw [hdepth, Nat.zero_add]
    exact hv.height
  obtain ⟨d', hrun, hsame⟩ : ∃ d', (Decoder.decode buf).run (encode v ++ after, d)
      = (.ok v, (after, d')) ∧ SameSetup d d' :=
    decode_encode hv.encodable (handled_of_transparent after v hv.transparent) hroom
  exact ⟨d', hrun, hsame.depth.trans hdepth⟩

/-- A decoder with tables of its own does, too. -/
lemma decode_literal_alone {after : List UInt8} {v : Amf3Value} (hv : v.Literal) :
    decode.run (encode v ++ after) = (.ok v, after) := by
  obtain ⟨d', hrun, -⟩ : ∃ d', (Decoder.decode (encode v ++ after)).run (encode v ++ after, {})
      = (.ok v, (after, d')) ∧ d'.depth = 0 := decode_literal hv rfl
  change ((_, _) : Except Error Amf3Value × List UInt8) = _
  rw [hrun]

/-! ### The older framings -/

/-- A value with the switch to AMF3 in front of it. -/
def avmplus (v : Amf3Value) : List UInt8 := avmplusObjectMarker :: encode v

/-- A value on a channel that was negotiated to AMF3, with the switch in front of it or without. -/
def legacyFrame (switched : Bool) (v : Amf3Value) : List UInt8 :=
  if switched then avmplus v else encode v

/-- The marker of a value tells dictionaries and `undefined` from all others. -/
lemma encode_eq_cons (v : Amf3Value) : ∃ marker bs, encode v = marker :: bs ∧
    (marker = avmplusObjectMarker → v.isDictionary = true) ∧
    (marker = formatSelectorAmf0 → v = .undefined) := by
  have hother : ∀ {marker : UInt8} {p q : Prop}, marker ≠ avmplusObjectMarker →
      marker ≠ formatSelectorAmf0 →
      (marker = avmplusObjectMarker → p) ∧ (marker = formatSelectorAmf0 → q) :=
    fun h h' => ⟨fun heq => absurd heq h, fun heq => absurd heq h'⟩
  cases v with
  | undefined => exact ⟨_, _, by rw [encode], fun h => absurd h (by decide), fun _ => rfl⟩
  | boolean b => cases b <;> exact ⟨_, _, by rw [encode], hother (by decide) (by decide)⟩
  | integer n =>
      rw [encode]
      split_ifs
      · exact ⟨_, _, rfl, hother (by decide) (by decide)⟩
      · exact ⟨_, _, rfl, hother (by decide) (by decide)⟩
  | object className isDynamic sealedMembers dynamicMembers body =>
      cases body <;> exact ⟨_, _, by rw [encode], hother (by decide) (by decide)⟩
  | dictionary weakKeys entries =>
      exact ⟨_, _, by rw [encode], fun _ => rfl, fun h => absurd h (by decide)⟩
  | _ => exact ⟨_, _, by rw [encode], hother (by decide) (by decide)⟩

lemma run_skipAvmplus_switched {v : Amf3Value} {after : List UInt8} {d : Decoder} :
    skipAvmplus.run (avmplus v ++ after, d) = (.ok (), (encode v ++ after, d)) := by
  obtain ⟨marker, bs, hv, -, -⟩ := encode_eq_cons v
  have hunread : (Eff.onFst (Eff.gets id) : DecodeM (List UInt8)).run (avmplus v ++ after, d)
      = (.ok (avmplus v ++ after), (avmplus v ++ after, d)) := rfl
  have htail : ¬ (avmplus v ++ after).tail = [] := by
    rw [avmplus, hv]
    exact List.cons_ne_nil _ _
  have hhead : (avmplus v ++ after).head? = some avmplusObjectMarker := rfl
  have hskip : (Eff.onFst (Eff.modify List.tail) : DecodeM Unit).run (avmplus v ++ after, d)
      = (.ok (), (encode v ++ after, d)) := rfl
  rw [skipAvmplus, Eff.run_bind_ok hunread, if_pos hhead, Eff.run_bind_ok hskip, if_neg htail]
  rfl

lemma run_skipAvmplus_bare {v : Amf3Value} {after : List UInt8} {d : Decoder}
    (hv : v.isDictionary = false) :
    skipAvmplus.run (encode v ++ after, d) = (.ok (), (encode v ++ after, d)) := by
  obtain ⟨marker, bs, hencode, hmarker, -⟩ := encode_eq_cons v
  have hunread : (Eff.onFst (Eff.gets id) : DecodeM (List UInt8)).run (encode v ++ after, d)
      = (.ok (encode v ++ after), (encode v ++ after, d)) := rfl
  have hbare : ¬ (encode v ++ after).head? = some avmplusObjectMarker := by
    rw [hencode, List.cons_append, List.head?_cons, Option.some.injEq]
    intro h
    rw [hmarker h] at hv
    cases hv
  rw [skipAvmplus, Eff.run_bind_ok hunread, if_neg hbare]
  rfl

/-- A framed value is read, and a decoder at depth zero is left. -/
lemma run_decodeDataNext {buf after : List UInt8} {switched : Bool} {v : Amf3Value} {d : Decoder}
    (hv : v.Literal) (hdictionary : v.isDictionary = true → switched = true) (hdepth : d.depth = 0) :
    ∃ d', (decodeDataNext buf).run (legacyFrame switched v ++ after, d) = (.ok (some v), (after, d')) ∧
      d'.depth = 0 := by
  obtain ⟨d', hrun, hdepth'⟩ : ∃ d', (Decoder.decode buf).run (encode v ++ after, d)
      = (.ok v, (after, d')) ∧ d'.depth = 0 := decode_literal hv hdepth
  refine ⟨d', ?_, hdepth'⟩
  have hskip : skipAvmplus.run (legacyFrame switched v ++ after, d)
      = (.ok (), (encode v ++ after, d)) := by
    rw [legacyFrame]
    cases switched with
    | true => exact run_skipAvmplus_switched
    | false => exact run_skipAvmplus_bare (by simpa using hdictionary)
  have hne : (legacyFrame switched v ++ after).isEmpty = false := by
    obtain ⟨marker, bs, hencode, -, -⟩ := encode_eq_cons v
    rw [legacyFrame, avmplus, hencode]
    cases switched <;> rfl
  have hunread : (Eff.onFst (Eff.gets id) : DecodeM (List UInt8)).run
      (legacyFrame switched v ++ after, d)
        = (.ok (legacyFrame switched v ++ after), (legacyFrame switched v ++ after, d)) := rfl
  rw [decodeDataNext, Eff.run_bind_ok hunread, hne, if_neg Bool.false_ne_true, Eff.run_bind_ok hskip,
    Eff.run_bind_ok hrun]
  rfl

lemma collects_legacy {buf : List UInt8} (framed : List (Bool × Amf3Value))
    (hliteral : ∀ p ∈ framed, p.2.Literal)
    (hdictionary : ∀ p ∈ framed, p.2.isDictionary = true → p.1 = true) {d : Decoder}
    (hdepth : d.depth = 0) :
    ∃ d', Eff.Collects (decodeDataNext buf) (framed.flatMap fun p => legacyFrame p.1 p.2, d)
      (framed.map Prod.snd) ([], d') := by
  induction framed generalizing d with
  | nil => exact ⟨d, .done rfl⟩
  | cons p framed ih =>
      obtain ⟨d₁, hrun, hdepth₁⟩ := @run_decodeDataNext buf
        (framed.flatMap fun p => legacyFrame p.1 p.2) p.1 p.2 d (hliteral p List.mem_cons_self)
        (hdictionary p List.mem_cons_self) hdepth
      obtain ⟨d', hcollects⟩ := ih (fun q hq => hliteral q (List.mem_cons_of_mem _ hq))
        (fun q hq => hdictionary q (List.mem_cons_of_mem _ hq)) hdepth₁
      exact ⟨d', .more hrun hcollects⟩

lemma length_legacyFrame_pos (switched : Bool) (v : Amf3Value) :
    0 < (legacyFrame switched v).length := by
  obtain ⟨marker, bs, hencode, -, -⟩ := encode_eq_cons v
  rw [legacyFrame, avmplus, hencode]
  cases switched <;> exact Nat.succ_pos _

/-- An older body is read as its values. -/
lemma decodeDataMessage_legacy (framed : List (Bool × Amf3Value))
    (hliteral : ∀ p ∈ framed, p.2.Literal)
    (hdictionary : ∀ p ∈ framed, p.2.isDictionary = true → p.1 = true) :
    decodeDataMessage (framed.flatMap fun p => legacyFrame p.1 p.2) = .ok (framed.map Prod.snd) := by
  obtain ⟨d', hcollects⟩ := @collects_legacy (framed.flatMap fun p => legacyFrame p.1 p.2)
    framed hliteral hdictionary {} rfl
  have hlen : (framed.map Prod.snd).length ≤ (framed.flatMap fun p => legacyFrame p.1 p.2).length := by
    rw [List.length_map, List.length_flatMap]
    clear hcollects hliteral hdictionary
    induction framed with
    | nil => exact Nat.le_refl 0
    | cons p framed ih =>
        have hpos := length_legacyFrame_pos p.1 p.2
        rw [List.length_cons, List.map_cons, List.sum_cons]
        omega
  rw [decodeDataMessage, hcollects.run (Nat.lt_succ_of_le hlen)]

/-- And bridged, unless its first byte is taken for a format selector. -/
lemma decodeMessageToAmf0_legacy (framed : List (Bool × Amf3Value))
    (hliteral : ∀ p ∈ framed, p.2.Literal)
    (hdictionary : ∀ p ∈ framed, p.2.isDictionary = true → p.1 = true)
    (hfirst : ∀ p, framed.head? = some p → p.2 = .undefined → p.1 = true) :
    decodeMessageToAmf0 (framed.flatMap fun p => legacyFrame p.1 p.2)
      = .ok (framed.map fun p => p.2.toAmf0) := by
  have hselector : ¬ (framed.flatMap fun p => legacyFrame p.1 p.2).head? = some formatSelectorAmf0 := by
    cases framed with
    | nil => exact fun h => by cases h
    | cons p framed =>
        obtain ⟨marker, bs, hencode, -, hundefined⟩ := encode_eq_cons p.2
        rw [List.flatMap_cons, legacyFrame, avmplus, hencode]
        cases hswitched : p.1 with
        | true => exact fun h => absurd (Option.some.inj h) (by decide)
        | false =>
            intro h
            have hbare := hfirst p rfl (hundefined (Option.some.inj h))
            rw [hswitched] at hbare
            cases hbare
  rw [decodeMessageToAmf0, if_neg hselector, decodeDataMessage_legacy framed hliteral hdictionary]
  exact congrArg Except.ok (List.map_map)

end Amf3

/-! ### AMF3 values inside AMF0 values -/

/-- An AMF0 value in which some positions hold AMF3 values; `plain` is one without any. -/
inductive Mixed where
  | plain (v : Amf0Value)
  | avmplus (w : Amf3Value)
  | object (pairs : List (String × Mixed))
  | ecmaArray (pairs : List (String × Mixed))
  | strictArray (items : List Mixed)
  | typedObject (className : String) (properties : List (String × Mixed))

namespace Mixed

open Amf Amf0Value

mutual

/-- The AMF0 value it stands for. -/
def toAmf0 : Mixed → Amf0Value
  | plain v => v
  | avmplus w => w.toAmf0
  | object ps => .object (toAmf0Pairs ps)
  | ecmaArray ps => .ecmaArray (toAmf0Pairs ps)
  | strictArray ms => .strictArray (toAmf0List ms)
  | typedObject className ps => .typedObject className (toAmf0Pairs ps)

def toAmf0Pairs : List (String × Mixed) → List (String × Amf0Value)
  | [] => []
  | (k, m) :: ps => (k, toAmf0 m) :: toAmf0Pairs ps

def toAmf0List : List Mixed → List Amf0Value
  | [] => []
  | m :: ms => toAmf0 m :: toAmf0List ms

end

mutual

/-- The bytes: those of AMF0, with the switch to AMF3 in front of each embedded value. -/
def encode : Mixed → List UInt8
  | plain v => Amf.encode v
  | avmplus w => Amf3.avmplus w
  | object ps => 0x03 :: encodePairs ps
  | ecmaArray ps => 0x08 :: (Bytes.toBe 4 ps.length ++ encodePairs ps)
  | strictArray ms => 0x0A :: (Bytes.toBe 4 ms.length ++ encodeList ms)
  | typedObject className ps => 0x10 :: (writeUtf8Short className ++ encodePairs ps)

def encodePairs : List (String × Mixed) → List UInt8
  | [] => [0, 0, 0x09]
  | (k, m) :: ps => writeUtf8Short k ++ (encode m ++ encodePairs ps)

def encodeList : List Mixed → List UInt8
  | [] => []
  | m :: ms => encode m ++ encodeList ms

end

mutual

/-- Every length fits its field, keys are not empty, and embedded values are literal. -/
def WellFormed : Mixed → Prop
  | plain v => v.Spellable
  | avmplus w => w.Literal
  | object ps | ecmaArray ps => WellFormedPairs ps
  | strictArray ms => ms.length < 2 ^ 32 ∧ WellFormedList ms
  | typedObject className ps => (Utf8.encode className).length ≤ 65535 ∧ WellFormedPairs ps

def WellFormedPairs : List (String × Mixed) → Prop
  | [] => True
  | (k, m) :: ps => (k ≠ "" ∧ (Utf8.encode k).length ≤ 65535) ∧ WellFormed m ∧ WellFormedPairs ps

def WellFormedList : List Mixed → Prop
  | [] => True
  | m :: ms => WellFormed m ∧ WellFormedList ms

end

mutual

/-- How deep AMF0 containers are nested; an embedded value counts one. -/
def height : Mixed → ℕ
  | plain v => v.height
  | avmplus _ => 1
  | object ps | ecmaArray ps | typedObject _ ps => heightPairs ps + 1
  | strictArray ms => heightList ms + 1

def heightPairs : List (String × Mixed) → ℕ
  | [] => 0
  | (_, m) :: ps => max (height m) (heightPairs ps)

def heightList : List Mixed → ℕ
  | [] => 0
  | m :: ms => max (height m) (heightList ms)

end

lemma length_toAmf0List (ms : List Mixed) : (toAmf0List ms).length = ms.length := by
  induction ms with
  | nil => rfl
  | cons m ms ih => rw [toAmf0List, List.length_cons, List.length_cons, ih]

/-- Between two places of the input stands a form, and the reference table grows. -/
def Stands (room : ℕ) (refs : RefTable) (u : List UInt8) (form : Form) (u' : List UInt8) : Prop :=
  ∃ members, Reads room refs u form (refs ++ members) u'

/-- A container stands where its members do. -/
lemma stands_container {room : ℕ} {refs : RefTable} {bs u u' : List UInt8}
    {make : List (String × Amf0Value) → Amf0Value} {ps : List (String × Amf0Value)}
    (hhead : Head make bs) (h : Stands room (refs ++ [make []]) u (.body ps) u') :
    Stands (room + 1) refs (bs ++ u) (.value (make ps)) u' := by
  obtain ⟨members, hreads⟩ := h
  exact ⟨_, reads_container hhead hreads⟩

mutual

/-- A mixed value is in the AMF0 grammar, with any input after it and any table before it. -/
theorem reads_mixed {room : ℕ} {refs : RefTable} {u : List UInt8} :
    ∀ m : Mixed, m.WellFormed → m.height ≤ room →
      Stands room refs (m.encode ++ u) (.value m.toAmf0) u
  | .plain v, h, hroom => ⟨_, reads_encode v h hroom⟩
  | .avmplus w, h, hroom => by
      obtain ⟨room, rfl⟩ := Nat.exists_eq_add_of_le' hroom
      have hreads : Reads (room + 1) refs (0x11 :: (Amf3.encode w ++ u)) (.value w.toAmf0) refs u :=
        .avmplus (Amf3.decode_literal_alone h)
      exact ⟨[], by rw [List.append_nil]; exact hreads⟩
  | .object ps, h, hroom => by
      obtain ⟨room, rfl⟩ := Nat.exists_eq_add_of_le' (Nat.le_of_add_left_le hroom)
      rw [encode, ← List.singleton_append, List.append_assoc]
      exact stands_container .object (reads_mixedPairs ps h (Nat.le_of_succ_le_succ hroom))
  | .ecmaArray ps, h, hroom => by
      obtain ⟨room, rfl⟩ := Nat.exists_eq_add_of_le' (Nat.le_of_add_left_le hroom)
      have hcount : ps.length % 256 ^ 4 < 256 ^ 4 := Nat.mod_lt _ (by norm_num)
      rw [encode, ← List.cons_append, List.append_assoc, ← Bytes.toBe_mod]
      exact stands_container (.ecmaArray hcount)
        (reads_mixedPairs ps h (Nat.le_of_succ_le_succ hroom))
  | .strictArray ms, h, hroom => by
      obtain ⟨room, rfl⟩ := Nat.exists_eq_add_of_le' (Nat.le_of_add_left_le hroom)
      obtain ⟨members, hreads⟩ := @reads_mixedList room (refs ++ [.strictArray []]) u ms h.2
        (Nat.le_of_succ_le_succ hroom)
      refine ⟨.strictArray (toAmf0List ms) :: members, ?_⟩
      rw [encode, List.cons_append, List.append_assoc,
        ← set_slot refs members (.strictArray []) (.strictArray (toAmf0List ms)),
        ← length_toAmf0List]
      exact .strictArray (by rw [length_toAmf0List]; exact h.1) hreads
  | .typedObject className ps, h, hroom => by
      obtain ⟨room, rfl⟩ := Nat.exists_eq_add_of_le' (Nat.le_of_add_left_le hroom)
      rw [encode, ← List.cons_append, List.append_assoc]
      exact stands_container (.typedObject (Nat.lt_succ_of_le h.1))
        (reads_mixedPairs ps h.2 (Nat.le_of_succ_le_succ hroom))

/-- So are the members of a mixed container. -/
theorem reads_mixedPairs {room : ℕ} {refs : RefTable} {u : List UInt8} :
    ∀ ps : List (String × Mixed), WellFormedPairs ps → heightPairs ps ≤ room →
      Stands room refs (encodePairs ps ++ u) (.body (toAmf0Pairs ps)) u
  | [], _, _ => ⟨[], by rw [List.append_nil]; exact .objectEnd⟩
  | (k, m) :: ps, h, hroom => by
      obtain ⟨⟨hk, hlen⟩, hm, hps⟩ := h
      obtain ⟨hroomm, hroomps⟩ := max_le_iff.mp hroom
      obtain ⟨members, hreads⟩ := @reads_mixed room refs (encodePairs ps ++ u) m hm hroomm
      obtain ⟨members', hreads'⟩ := @reads_mixedPairs room (refs ++ members) u ps hps hroomps
      refine ⟨members ++ members', ?_⟩
      rw [encodePairs, List.append_assoc, List.append_assoc, ← List.append_assoc refs]
      exact .property hk (Nat.lt_succ_of_le hlen) hreads hreads'

/-- And mixed values in a row. -/
theorem reads_mixedList {room : ℕ} {refs : RefTable} {u : List UInt8} :
    ∀ ms : List Mixed, WellFormedList ms → heightList ms ≤ room →
      Stands room refs (encodeList ms ++ u) (.items (toAmf0List ms)) u
  | [], _, _ => ⟨[], by rw [List.append_nil]; exact .noItem⟩
  | m :: ms, h, hroom => by
      obtain ⟨hm, hms⟩ := h
      obtain ⟨hroomm, hroomms⟩ := max_le_iff.mp hroom
      obtain ⟨members, hreads⟩ := @reads_mixed room refs (encodeList ms ++ u) m hm hroomm
      obtain ⟨members', hreads'⟩ := @reads_mixedList room (refs ++ members) u ms hms hroomms
      refine ⟨members ++ members', ?_⟩
      rw [encodeList, List.append_assoc, ← List.append_assoc refs]
      exact .item hreads hreads'

end

lemma wellFormedList_iff {ms : List Mixed} : WellFormedList ms ↔ ∀ m ∈ ms, m.WellFormed := by
  induction ms with
  | nil => exact iff_of_true trivial fun m hm => absurd hm List.not_mem_nil
  | cons m ms ih => rw [WellFormedList, ih, List.forall_mem_cons]

lemma heightList_le_iff {ms : List Mixed} {n : ℕ} : heightList ms ≤ n ↔ ∀ m ∈ ms, m.height ≤ n := by
  induction ms with
  | nil => exact iff_of_true (Nat.zero_le _) fun m hm => absurd hm List.not_mem_nil
  | cons m ms ih => rw [heightList, max_le_iff, ih, List.forall_mem_cons]

lemma toAmf0List_eq_map (ms : List Mixed) : toAmf0List ms = ms.map toAmf0 := by
  induction ms with
  | nil => rfl
  | cons m ms ih => rw [toAmf0List, ih, List.map_cons]

/-- Mixed values in a row decode to the values they stand for. -/
theorem decodeAll_mixed {ms : List Mixed} (h : ∀ m ∈ ms, m.WellFormed ∧ m.height ≤ maxDecodeDepth) :
    decodeAll (encodeList ms) = .ok (ms.map toAmf0) := by
  obtain ⟨members, hreads⟩ := @reads_mixedList maxDecodeDepth [] [] ms
    (wellFormedList_iff.mpr fun m hm => (h m hm).1) (heightList_le_iff.mpr fun m hm => (h m hm).2)
  rw [List.append_nil, toAmf0List_eq_map] at hreads
  exact decodeAll_iff.mpr ⟨_, hreads⟩

end Mixed

namespace Amf3

/-- The framing with a format selector: every value behind the switch to AMF3. -/
def selectedBody (vs : List Amf3Value) : List UInt8 := formatSelectorAmf0 :: vs.flatMap avmplus

lemma decodeMessageToAmf0_selected {vs : List Amf3Value} (h : ∀ v ∈ vs, v.Literal) :
    decodeMessageToAmf0 (selectedBody vs) = .ok (vs.map Amf3Value.toAmf0) := by
  have hbody : vs.flatMap avmplus = Mixed.encodeList (vs.map .avmplus) := by
    clear h
    induction vs with
    | nil => rfl
    | cons v vs ih => rw [List.flatMap_cons, ih, List.map_cons, Mixed.encodeList, Mixed.encode]
  have hmixed : ∀ m ∈ vs.map Mixed.avmplus, m.WellFormed ∧ m.height ≤ maxDecodeDepth := by
    intro m hm
    obtain ⟨v, hv, rfl⟩ := List.mem_map.mp hm
    refine ⟨h v hv, ?_⟩
    rw [Mixed.height]
    decide
  have hselector : (selectedBody vs).head? = some formatSelectorAmf0 := rfl
  have htail : (selectedBody vs).tail = vs.flatMap avmplus := rfl
  rw [decodeMessageToAmf0, if_pos hselector, htail, hbody, Mixed.decodeAll_mixed hmixed, List.map_map]
  rfl

end Amf3

/-- **Framings**: literal AMF3 values are read as the same values from a body with a format selector,
from every older body in which dictionaries have the switch in front and the first value is no bare
`undefined`, and from any positions of AMF0 values. -/
theorem framings_agree :
    (∀ vs : List Amf3Value, (∀ v ∈ vs, v.Literal) →
      Amf3.decodeMessageToAmf0 (Amf3.selectedBody vs) = .ok (vs.map Amf3Value.toAmf0) ∧
        ∀ switches : List Bool, switches.length = vs.length →
          (∀ p ∈ switches.zip vs, p.2.isDictionary = true → p.1 = true) →
          (∀ p, (switches.zip vs).head? = some p → p.2 = .undefined → p.1 = true) →
          Amf3.decodeMessageToAmf0 ((switches.zip vs).flatMap fun p => Amf3.legacyFrame p.1 p.2)
            = .ok (vs.map Amf3Value.toAmf0)) ∧
    ∀ m : Mixed, m.WellFormed → m.height ≤ maxDecodeDepth →
    Amf.decodeAll m.encode = .ok [m.toAmf0] := by
  refine ⟨fun vs hvs => ⟨Amf3.decodeMessageToAmf0_selected hvs, ?_⟩, fun m hm hheight => ?_⟩
  · intro switches hlen hdictionary hfirst
    have hliteral : ∀ p ∈ switches.zip vs, p.2.Literal := fun p hp =>
      hvs p.2 (List.of_mem_zip hp).2
    rw [Amf3.decodeMessageToAmf0_legacy _ hliteral hdictionary hfirst]
    have hvalues : (switches.zip vs).map Prod.snd = vs := List.map_snd_zip (Nat.le_of_eq hlen.symm)
    have hmap : ((switches.zip vs).map fun p => p.2.toAmf0)
        = ((switches.zip vs).map Prod.snd).map Amf3Value.toAmf0 := (List.map_map ..).symm
    rw [hmap, hvalues]
  · have hone := @Mixed.decodeAll_mixed [m] fun m' hm' => by
      rw [List.mem_singleton.mp hm']
      exact ⟨hm, hheight⟩
    rwa [Mixed.encodeList, Mixed.encodeList, List.append_nil] at hone

/-- A leading `undefined`, a dictionary and a bare string; and an object that holds the dictionary. -/
theorem framings_agree_dictionary :
    let d : Amf3Value := .dictionary false [(.string "k", .integer 1)]
    let m : Mixed := .object [("a", .avmplus d), ("b", .plain (.strictArray [.null]))]
    Amf3.decodeMessageToAmf0 (Amf3.selectedBody [.undefined, d, .string "s"])
        = .ok [.undefined, .ecmaArray [("k", .number (.ofNat 1))], .string "s"] ∧
      Amf3.decodeMessageToAmf0 (Amf3.avmplus .undefined ++ Amf3.avmplus d ++ Amf3.encode (.string "s"))
        = .ok [.undefined, .ecmaArray [("k", .number (.ofNat 1))], .string "s"] ∧
      Amf.decodeAll m.encode
        = .ok
        [.object [("a", .ecmaArray [("k", .number (.ofNat 1))]), ("b", .strictArray [.null])]] := by
  intro d m
  have hk : (Utf8.encode "k").length < 2 ^ 28 := by decide
  have hs : (Utf8.encode "s").length < 2 ^ 28 := by decide
  have hd : d.Literal :=
    ⟨⟨by decide, hk, ⟨by decide, by decide⟩, trivial⟩, ⟨trivial, trivial, trivial⟩, by decide⟩
  have hvs : ∀ v ∈ [Amf3Value.undefined, d, .string "s"], v.Literal := by
    intro v hv
    simp only [List.mem_cons, List.not_mem_nil, or_false] at hv
    rcases hv with rfl | rfl | rfl
    · exact ⟨trivial, trivial, by decide⟩
    · exact hd
    · exact ⟨hs, trivial, by decide⟩
  have hm : m.WellFormed :=
    ⟨⟨by decide, by decide⟩, hd, ⟨by decide, by decide⟩, ⟨by decide, trivial, trivial⟩, trivial⟩
  obtain ⟨hselected, hlegacy⟩ := framings_agree.1 _ hvs
  refine ⟨hselected, ?_, framings_agree.2 m hm (by decide)⟩
  refine hlegacy [true, true, false] rfl ?_ ?_
  · intro p hp
    simp only [List.zip_cons_cons, List.zip_nil_left, List.mem_cons, List.not_mem_nil, or_false] at hp
    rcases hp with rfl | rfl | rfl
    · exact fun _ => rfl
    · exact fun _ => rfl
    · exact fun h => by cases h
  · rintro _ ⟨⟩ _
    rfl

end Rtmp
