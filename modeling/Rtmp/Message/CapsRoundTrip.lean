import Rtmp.Amf.RoundTrip
import Rtmp.Flv.Multitrack
import Rtmp.Message.Capabilities

/-!
Capability blocks on their way through the connect command.

* `FourCcInfoMap.insertFourcc`, `FourCcInfoMap.Made`: how maps are made, with what they were given in
  the order in which it was given;
* `made_eq_ofHistory` (step by step, the map of a history): its keys stand as they were first given,
  each with what it was given last;
* `ConnectCapabilities.Plain`, `ConnectCapabilities.Carried`: properties beside a block, and the blocks
  that the format can carry;
* `fromAmf0_encodeInto`: a block is found among other properties;
* **`capabilities_survive`**: it survives the wire.
-/

namespace Rtmp

open Amf0Value

/-! ### Masks -/

/-- A mask is exact as a number. -/
lemma maskOf_ofNat (mask : UInt32) : maskOf (.ofNat mask.toNat) = some mask := by
  have hmask : mask.toNat < 2 ^ 53 := mask.toNat_lt.trans (by norm_num)
  have hmax : (0xFFFFFFFF : ℕ) < 2 ^ 53 := by norm_num
  have hpos : Binary64.le (.ofNat 0) (.ofNat mask.toNat) = true :=
    (Binary64.le_ofNat_iff (by norm_num) hmask).mpr (Nat.zero_le _)
  rw [maskOf, Binary64.isFinite_ofNat hmask, hpos, Bool.true_and, if_pos rfl, Option.some.injEq]
  split_ifs with hle
  · have hge := (Binary64.le_ofNat_iff hmax hmask).mp hle
    refine UInt32.toNat_inj.mp ?_
    have hlt : mask.toNat < 2 ^ 32 := mask.toNat_lt
    show 0xFFFFFFFF = mask.toNat
    omega
  · exact Binary64.toU32_ofNat mask

namespace FourCcInfoMap

/-- Set the mask of a FourCC, by its text. -/
def insertFourcc (fourcc : Flv.FourCc) (mask : UInt32) (m : FourCcInfoMap) : FourCcInfoMap :=
  m.upsert (Utf8.lossy fourcc.bytes) mask

/-- The members of an object that are masks. -/
def masksOf (pairs : List (String × Amf0Value)) : List (String × UInt32) :=
  pairs.filterMap fun p => (p.2.asF64.bind maskOf).map (p.1, ·)

/-- What a map is given by an object. -/
def given : Amf0Value → List (String × UInt32)
  | .object ps | .ecmaArray ps => masksOf ps
  | _ => []

/-- How maps are made, with what they were given. -/
inductive Made : List (String × UInt32) → FourCcInfoMap → Prop
  | new : Made [] .empty
  | fromAmf0 (v : Amf0Value) : Made (given v) (fromAmf0 v)
  | insert {h m} (hm : Made h m) (key : String) (mask : UInt32) :
      Made (h ++ [(key, mask)]) (m.upsert key mask)
  | insertFourcc {h m} (hm : Made h m) (fourcc : Flv.FourCc) (mask : UInt32) :
      Made (h ++ [(Utf8.lossy fourcc.bytes, mask)]) (insertFourcc fourcc mask m)

lemma fromAmf0_eq (v : Amf0Value) : fromAmf0 v = OrderedMap.ofHistory (given v) := by
  have hpairs : ∀ pairs : List (String × Amf0Value),
      fromAmf0 (.object pairs) = OrderedMap.ofHistory (masksOf pairs) := by
    intro pairs
    rw [OrderedMap.ofHistory, masksOf, List.foldl_filterMap]
    change pairs.foldl _ _ = _
    congr 1
    funext out p
    obtain ⟨k, v⟩ := p
    cases v
    case number n =>
      show (maskOf n).elim out _ = _
      cases hmask : maskOf n <;> simp [asF64, hmask]
    all_goals rfl
  cases v <;> exact hpairs _

/-- **A map is that of its history**, step by step. -/
theorem made_eq_ofHistory {h : List (String × UInt32)} {m : FourCcInfoMap} (hm : Made h m) :
    m = OrderedMap.ofHistory h := by
  induction hm with
  | new => rfl
  | fromAmf0 v => exact fromAmf0_eq v
  | insert _ key mask ih => rw [OrderedMap.ofHistory_append, ← ih]
  | insertFourcc _ fourcc mask ih =>
      rw [OrderedMap.ofHistory_append, ← ih]
      rfl

/-- A map without entries is the empty one. -/
lemma eq_empty_of_isEmpty {m : FourCcInfoMap} (h : m.entries.isEmpty = true) : m = .empty := by
  obtain ⟨entries, hnodup⟩ := m
  obtain rfl : entries = [] := List.isEmpty_iff.mp h
  rfl

/-- The masks of a map are exact. -/
lemma fromAmf0_toAmf0_map (m : FourCcInfoMap) : fromAmf0 m.toAmf0 = m := by
  have hmasks : masksOf (m.entries.map fun e => (e.1, .number (.ofNat e.2.toNat))) = m.entries := by
    rw [masksOf, List.filterMap_map]
    simp [asF64, maskOf_ofNat]
  rw [fromAmf0_eq, toAmf0, given, hmasks, OrderedMap.ofHistory_entries]

end FourCcInfoMap

/-! ### Blocks -/

namespace ConnectCapabilities

/-- The names of the properties that make up a block. -/
def properties : List String :=
  ["objectEncoding", "fourCcList", "videoFourCcInfoMap", "audioFourCcInfoMap", "capsEx"]

/-- Properties beside a block, that the format can carry and the decoder follows. -/
structure Plain (ps : List (String × Amf0Value)) : Prop where
  other : ∀ p ∈ ps, p.1 ∉ properties
  encodable : EncodablePairs ps
  height : heightPairs ps < maxDecodeDepth

/-- A block that the format can carry. -/
structure Carried (c : ConnectCapabilities) : Prop where
  count : c.fourccList.length < 2 ^ 32
  texts : ∀ s ∈ c.fourccList, (Utf8.encode s).length < 2 ^ 32
  video : ∀ k ∈ c.videoFourccInfoMap.keys, Key k
  audio : ∀ k ∈ c.audioFourccInfoMap.keys, Key k

/-- Take up properties one after the other. -/
def takeAll (out : ConnectCapabilities) (ps : List (String × Amf0Value)) : ConnectCapabilities :=
  ps.foldl (fun out p => out.take p.1 p.2) out

section TakeAll

variable {out c : ConnectCapabilities} {ps qs : List (String × Amf0Value)}

lemma fromAmf0_object : fromAmf0 (.object ps) = takeAll .default ps := rfl

@[simp] lemma takeAll_nil : takeAll out [] = out := rfl

@[simp] lemma takeAll_cons {p : String × Amf0Value} :
    takeAll out (p :: ps) = takeAll (out.take p.1 p.2) ps := rfl

lemma takeAll_append : takeAll out (ps ++ qs) = takeAll (takeAll out ps) qs := List.foldl_append

lemma take_of_not_mem {k : String} {v : Amf0Value} (h : k ∉ properties) : out.take k v = out := by
  simp only [properties, List.mem_cons, List.not_mem_nil, or_false, not_or] at h
  obtain ⟨h1, h2, h3, h4, h5⟩ := h
  unfold take
  rw [if_neg h1, if_neg h2, if_neg h3, if_neg h4, if_neg h5]

lemma takeAll_plain (h : ∀ p ∈ ps, p.1 ∉ properties) : takeAll out ps = out := by
  induction ps with
  | nil => rfl
  | cons p ps ih =>
      rw [takeAll_cons, take_of_not_mem (h p List.mem_cons_self),
        ih fun q hq => h q (List.mem_cons_of_mem _ hq)]

/-! ### What is left out is what a new block has -/

lemma takeAll_objectEncoding (hout : out.objectEncoding = none) (encoding : Option UInt8) :
    takeAll out (encoding.map fun enc =>
      ("objectEncoding", Amf0Value.number (.ofNat enc.toNat))).toList
        = { out with objectEncoding := encoding } := by
  cases encoding with
  | none =>
      show out = { out with objectEncoding := none }
      rw [← hout]
  | some enc =>
      have henc : enc.toNat < 2 ^ 53 := enc.toNat_lt.trans (by norm_num)
      have hpos : Binary64.le (.ofNat 0) (.ofNat enc.toNat) = true :=
        (Binary64.le_ofNat_iff (by norm_num) henc).mpr (Nat.zero_le _)
      have hbyte : Binary64.le (.ofNat enc.toNat) (.ofNat 255) = true :=
        (Binary64.le_ofNat_iff henc (by norm_num)).mpr (Nat.le_of_lt_succ enc.toNat_lt)
      have hback : (Binary64.ofNat enc.toNat).toU32 = enc.toUInt32 := by
        rw [← UInt8.toNat_toUInt32]
        exact Binary64.toU32_ofNat _
      show takeAll out [("objectEncoding", .number (.ofNat enc.toNat))] = _
      rw [takeAll_cons, takeAll_nil]
      unfold take
      rw [if_pos rfl]
      simp only [Binary64.isFinite_ofNat henc, hpos, hbyte, hback, Bool.and_self, if_true]
      rw [UInt8.toUInt8_toUInt32]

lemma takeAll_fourccList (hout : out.fourccList = []) (texts : List String) :
    takeAll out (if texts.isEmpty then []
      else [("fourCcList", Amf0Value.strictArray (texts.map .string))])
        = { out with fourccList := texts } := by
  cases texts with
  | nil =>
      show out = { out with fourccList := [] }
      rw [← hout]
  | cons text texts =>
      have hback : ((text :: texts).map Amf0Value.string).filterMap asStr = text :: texts := by
        rw [List.filterMap_map]
        exact List.filterMap_some
      rw [List.isEmpty_cons, if_neg Bool.false_ne_true, takeAll_cons, takeAll_nil]
      show out.take "fourCcList" _ = _
      unfold take
      rw [if_neg (by decide), if_pos rfl]
      simp only [hback]

lemma takeAll_videoMap (hout : out.videoFourccInfoMap = .empty) (m : FourCcInfoMap) :
    takeAll out (if m.entries.isEmpty then [] else [("videoFourCcInfoMap", m.toAmf0)])
      = { out with videoFourccInfoMap := m } := by
  split_ifs with hempty
  · rw [← FourCcInfoMap.eq_empty_of_isEmpty hempty] at hout
    rw [← hout, takeAll_nil]
  · rw [takeAll_cons, takeAll_nil]
    show out.take "videoFourCcInfoMap" _ = _
    unfold take
    rw [if_neg (by decide), if_neg (by decide), if_pos rfl, FourCcInfoMap.fromAmf0_toAmf0_map]

lemma takeAll_audioMap (hout : out.audioFourccInfoMap = .empty) (m : FourCcInfoMap) :
    takeAll out (if m.entries.isEmpty then [] else [("audioFourCcInfoMap", m.toAmf0)])
      = { out with audioFourccInfoMap := m } := by
  split_ifs with hempty
  · rw [← FourCcInfoMap.eq_empty_of_isEmpty hempty] at hout
    rw [← hout, takeAll_nil]
  · rw [takeAll_cons, takeAll_nil]
    show out.take "audioFourCcInfoMap" _ = _
    unfold take
    rw [if_neg (by decide), if_neg (by decide), if_neg (by decide), if_pos rfl,
      FourCcInfoMap.fromAmf0_toAmf0_map]

lemma takeAll_capsEx (hout : out.capsEx = 0) (mask : UInt32) :
    takeAll out (if mask = 0 then [] else [("capsEx", Amf0Value.number (.ofNat mask.toNat))])
      = { out with capsEx := mask } := by
  split_ifs with hzero
  · rw [hzero, ← hout, takeAll_nil]
  · rw [takeAll_cons, takeAll_nil]
    show out.take "capsEx" _ = _
    unfold take
    rw [if_neg (by decide), if_neg (by decide), if_neg (by decide), if_neg (by decide), if_pos rfl]
    simp only [maskOf_ofNat, Option.elim_some]

lemma takeAll_encodeInto : takeAll .default c.encodeInto = c := by
  rw [encodeInto, takeAll_append, takeAll_append, takeAll_append, takeAll_append,
    takeAll_objectEncoding rfl, takeAll_fourccList rfl, takeAll_videoMap rfl, takeAll_audioMap rfl,
    takeAll_capsEx rfl]

/-- A block is found among other properties. -/
theorem fromAmf0_encodeInto (c : ConnectCapabilities) {pre post : List (String × Amf0Value)}
    (hpre : ∀ p ∈ pre, p.1 ∉ properties) (hpost : ∀ p ∈ post, p.1 ∉ properties) :
    fromAmf0 (.object (pre ++ c.encodeInto ++ post)) = c := by
  rw [fromAmf0_object, takeAll_append, takeAll_append, takeAll_plain hpre, takeAll_encodeInto,
    takeAll_plain hpost]

end TakeAll

/-! ### On the wire -/

lemma encodable_encodeInto {c : ConnectCapabilities} (hc : c.Carried) :
    ∀ p ∈ c.encodeInto, (Key p.1 ∧ p.2.Encodable) ∧ p.2.height ≤ 2 := by
  have hkeys : ∀ k ∈ properties, Key k := by decide +kernel
  have hmap : ∀ m : FourCcInfoMap, (∀ k ∈ m.keys, Key k) → m.toAmf0.Encodable ∧
      m.toAmf0.height ≤ 2 := by
    intro m hm
    constructor
    · refine Amf.encodablePairs_iff.mpr fun p hp => ?_
      obtain ⟨e, he, rfl⟩ := List.mem_map.mp hp
      exact ⟨hm e.1 (List.mem_map_of_mem he), trivial⟩
    · refine Nat.succ_le_succ (Amf.heightPairs_le_iff.mpr fun p hp => ?_)
      obtain ⟨e, -, rfl⟩ := List.mem_map.mp hp
      exact le_refl 1
  have hlist : (Amf0Value.strictArray (c.fourccList.map .string)).Encodable ∧
      (Amf0Value.strictArray (c.fourccList.map .string)).height ≤ 2 := by
    constructor
    · refine ⟨by rw [List.length_map]; exact hc.count, Amf.encodableList_of_forall fun v hv => ?_⟩
      obtain ⟨s, hs, rfl⟩ := List.mem_map.mp hv
      exact hc.texts s hs
    · refine Nat.succ_le_succ (Amf.heightList_le_iff.mpr fun v hv => ?_)
      obtain ⟨s, -, rfl⟩ := List.mem_map.mp hv
      exact le_refl 1
  intro p hp
  simp only [encodeInto, List.mem_append, Option.mem_toList, Option.map_eq_some_iff] at hp
  rcases hp with (((⟨enc, -, rfl⟩ | hp) | hp) | hp) | hp
  · exact ⟨⟨hkeys "objectEncoding" (by decide), trivial⟩, one_le_two⟩
  all_goals
    split_ifs at hp
    · exact absurd hp List.not_mem_nil
    obtain rfl := List.mem_singleton.mp hp
  · exact ⟨⟨hkeys "fourCcList" (by decide), hlist.1⟩, hlist.2⟩
  · exact ⟨⟨hkeys "videoFourCcInfoMap" (by decide), (hmap _ hc.video).1⟩, (hmap _ hc.video).2⟩
  · exact ⟨⟨hkeys "audioFourCcInfoMap" (by decide), (hmap _ hc.audio).1⟩, (hmap _ hc.audio).2⟩
  · exact ⟨⟨hkeys "capsEx" (by decide), trivial⟩, one_le_two⟩

/-- A block is decoded and found among the properties that it was sent with. -/
def Survives (c : ConnectCapabilities) (pre post : List (String × Amf0Value)) : Prop :=
  ∃ v, (Amf.decode (Amf.encode (.object (pre ++ c.encodeInto ++ post))) 0).1 = .ok v ∧ fromAmf0 v = c

lemma survives {c : ConnectCapabilities} {pre post : List (String × Amf0Value)} (hc : c.Carried)
    (hpre : Plain pre) (hpost : Plain post) : c.Survives pre post := by
  have hblock := encodable_encodeInto hc
  have hmiddle : heightPairs c.encodeInto < maxDecodeDepth :=
    Nat.lt_of_le_of_lt (Amf.heightPairs_le_iff.mpr fun p hp => (hblock p hp).2) (by decide)
  have hencodable : (Amf0Value.object (pre ++ c.encodeInto ++ post)).Encodable := by
    refine Amf.encodablePairs_iff.mpr fun p hp => ?_
    rcases List.mem_append.mp hp with hp | hp
    · rcases List.mem_append.mp hp with hp | hp
      · exact Amf.encodablePairs_iff.mp hpre.encodable p hp
      · exact (hblock p hp).1
    · exact Amf.encodablePairs_iff.mp hpost.encodable p hp
  have hheight : (Amf0Value.object (pre ++ c.encodeInto ++ post)).height ≤ maxDecodeDepth := by
    have hall : heightPairs (pre ++ c.encodeInto ++ post) ≤ maxDecodeDepth - 1 := by
      refine Amf.heightPairs_le_iff.mpr fun p hp => ?_
      rcases List.mem_append.mp hp with hp | hp
      · rcases List.mem_append.mp hp with hp | hp
        · exact Amf.heightPairs_le_iff.mp (Nat.le_sub_one_of_lt hpre.height) p hp
        · exact Amf.heightPairs_le_iff.mp (Nat.le_sub_one_of_lt hmiddle) p hp
      · exact Amf.heightPairs_le_iff.mp (Nat.le_sub_one_of_lt hpost.height) p hp
    rw [height]
    rw [maxDecodeDepth] at hall ⊢
    omega
  have hdecode := Amf.decode_encode hencodable hheight [] []
  rw [List.nil_append, List.append_nil] at hdecode
  exact ⟨_, congrArg Prod.fst hdecode, fromAmf0_encodeInto c hpre.other hpost.other⟩

end ConnectCapabilities

/-- **Capability blocks survive the connect command**, among any other properties; and the keys of a map
are distinct and stand as they were first given, each with what it was given last, however the map was
made. -/
theorem capabilities_survive :
    (∀ (c : ConnectCapabilities) (pre post : List (String × Amf0Value)), c.Carried →
      ConnectCapabilities.Plain pre → ConnectCapabilities.Plain post → c.Survives pre post) ∧
    ∀ (h : List (String × UInt32)) (m : FourCcInfoMap), FourCcInfoMap.Made h m →
      m.keys.Nodup ∧ m.keys = (h.map Prod.fst).eraseDups ∧
        ∀ k, m.get k = (h.reverse.find? fun e => e.1 = k).map Prod.snd := by
  refine ⟨fun c pre post => ConnectCapabilities.survives, fun h m hm => ⟨m.nodup, ?_, fun k => ?_⟩⟩
  · rw [FourCcInfoMap.made_eq_ofHistory hm, OrderedMap.keys_ofHistory]
  · rw [FourCcInfoMap.made_eq_ofHistory hm, OrderedMap.get_ofHistory]

/-- The list of a block, and a mask. -/
theorem capabilities_survive_list :
    let c : ConnectCapabilities :=
      { ConnectCapabilities.default with fourccList := ["hvc1"], capsEx := 5 }
    c.Survives [("app", .string "live")] [] ∧
      (∃ m, FourCcInfoMap.Made [("*", 4), ("hvc1", 1), ("*", 3)] m ∧ m.keys = ["*", "hvc1"] ∧
        m.get "*" = some 3) := by
  intro c
  obtain ⟨hblocks, hmaps⟩ := capabilities_survive
  refine ⟨hblocks c _ _ ⟨by decide, by decide +kernel, by decide, by decide⟩
    ⟨by decide, ⟨by decide, ?_, trivial⟩, by decide⟩ ⟨by decide, trivial, by decide⟩, ?_⟩
  · show (Utf8.encode "live").length < 2 ^ 32
    decide +kernel
  · have hmade :=
      ((FourCcInfoMap.Made.new.insert "*" 4).insertFourcc ⟨0x68, 0x76, 0x63, 0x31⟩ 1).insert "*" 3
    have hkey : Utf8.lossy (Flv.FourCc.mk 0x68 0x76 0x63 0x31).bytes = "hvc1" := by decide +kernel
    rw [hkey] at hmade
    obtain ⟨-, hkeys, hget⟩ := hmaps _ _ hmade
    exact ⟨_, hmade, hkeys.trans (by decide), (hget "*").trans (by decide)⟩

/-! ### What does not survive -/

namespace Amf

/-- What fails in a slot fails. -/
lemma run_inSlot_error {empty : Amf0Value} {body : DecodeM Amf0Value} {u : List UInt8}
    {refs : RefTable} {t : List UInt8 × RefTable} {e : Error}
    (h : body.run (u, refs ++ [empty]) = (.error e, t)) :
    (inSlot empty body).run (u, refs) = (.error e, t) := by
  have hslot : (Eff.onSnd (Eff.modifyGet fun refs : RefTable => (refs.length, refs ++ [empty])) :
      DecodeM ℕ).run (u, refs) = (.ok refs.length, (u, refs ++ [empty])) := rfl
  rw [inSlot, Eff.run_bind_ok hslot, Eff.run_bind_error h]

/-- Behind its key, the value of a property is read. -/
lemma run_readProperty {child : DecodeM Amf0Value} {k : String} {u : List UInt8} {refs : RefTable}
    (hk : Key k) : (readProperty child).run (writeUtf8Short k ++ u, refs)
      = (child >>= fun v => pure (some (k, v))).run (u, refs) := by
  rw [readProperty, Eff.run_bind_ok (Eff.run_onFst (readUtf8Short_append (Nat.lt_succ_of_le hk.2))),
    if_neg hk.1]

/-- An object of which the second property cannot be read. -/
lemma decode_object_error {k : String} {v : Amf0Value} {bs u : List UInt8} {refs : RefTable}
    {t : List UInt8 × RefTable} {e : Error} (hk : Key k)
    (hfirst : Reads 63 [.object []] bs (.value v) refs u)
    (hsecond : (readProperty (decodeAtDepth 63)).run (u, refs) = (.error e, t)) :
    (decode (0x03 :: (writeUtf8Short k ++ bs)) 0).1 = .error e := by
  have hproperty : (readProperty (decodeAtDepth 63)).run (writeUtf8Short k ++ bs, [.object []])
      = (.ok (some (k, v)), (u, refs)) := (run_readProperty hk).trans (Eff.run_bind_ok hfirst.read)
  obtain ⟨b, buf, hbuf⟩ : ∃ b buf, writeUtf8Short k ++ bs = b :: buf :=
    List.exists_cons_of_ne_nil (by simp [writeUtf8Short, Bytes.toBe])
  rw [hbuf] at hproperty ⊢
  have hrest : (Eff.collect (readProperty (decodeAtDepth 63)) (buf.length + 1)).run (u, refs)
      = (.error e, t) := Eff.run_bind_error hsecond
  have hall : (Eff.collect (readProperty (decodeAtDepth 63)) (buf.length + 1 + 1)).run
      (b :: buf, [.object []]) = (.error e, t) := by
    rw [Eff.collect, Eff.run_bind_ok hproperty]
    exact Eff.run_bind_error hrest
  have hbody : (readObjectBody (decodeAtDepth 63)).run (b :: buf, [.object []]) = (.error e, t) :=
    (Eff.run_gets_bind _ _ _).trans hall
  have hcontainer : (readContainer (decodeAtDepth 63) .object).run (b :: buf, []) = (.error e, t) :=
    run_inSlot_error (Eff.run_bind_error hbody)
  have hrun : (decodeAtDepth (63 + 1)).run (0x03 :: b :: buf, []) = (.error e, t) :=
    decodeAtDepth_run hcontainer
  exact congrArg Prod.fst hrun

/-- The empty key without the mark after it is an error. -/
lemma run_readProperty_zeros (child : DecodeM Amf0Value) (rest : List UInt8) (refs : RefTable) :
    ∃ e, (readProperty child).run (writeUtf8Short "" ++ 0x00 :: rest, refs)
    = (.error e, (rest, refs)) := by
  have hempty : (Utf8.encode "").length < 256 ^ 2 := by
    rw [Utf8.encode_empty]
    norm_num
  rw [readProperty, Eff.run_bind_ok (Eff.run_onFst (readUtf8Short_append hempty)),
    if_pos (by decide)]
  simp only [Eff.run_bind_ok readU8_cons, if_neg (show ¬ (0x00 : UInt8) = 9 by decide)]
  exact ⟨_, rfl⟩

lemma utf8_zeros (n : ℕ) :
    Utf8.encode (String.ofList (List.replicate n '\x00')) = List.replicate n 0 := by
  rw [Utf8.encode, String.toByteArray_ofList]
  induction n with
  | zero => rfl
  | succ n ih =>
      rw [List.replicate_succ, List.utf8Encode_cons, List.replicate_succ, ← ih]
      simp
      rfl

/-- An array in an array, and so on. -/
def nest : ℕ → Amf0Value
  | 0 => .null
  | n + 1 => .strictArray [nest n]

lemma encodable_nest (n : ℕ) : (nest n).Encodable := by
  induction n with
  | zero => trivial
  | succ n ih =>
      have hcount : [nest n].length < 2 ^ 32 := by norm_num
      exact ⟨hcount, ih, trivial⟩

lemma decodeAtDepth_nest {u : List UInt8} {refs : RefTable} {room n : ℕ} (h : room ≤ n) :
    ∃ e t, (decodeAtDepth room).run (encode (nest n) ++ u, refs) = (.error e, t) := by
  induction room generalizing n refs with
  | zero => exact ⟨_, _, rfl⟩
  | succ room ih =>
      obtain ⟨n, rfl⟩ := Nat.exists_eq_add_of_le' (Nat.one_le_of_lt h)
      obtain ⟨e, t, hitem⟩ := @ih (refs ++ [.strictArray []]) n (Nat.le_of_succ_le_succ h)
      have hbytes : encode (nest (n + 1)) ++ u
          = 0x0A :: (Bytes.toBe 4 1 ++ (encode (nest n) ++ u)) := by
        simp [nest, encode, encodeItems]
      have hitems : (Eff.times (decodeAtDepth room) 1).run
        (encode (nest n) ++ u, refs ++ [.strictArray []])
          = (.error e, t) := Eff.run_bind_error hitem
      rw [hbytes]
      exact ⟨e, t, decodeAtDepth_run ((decodeMarked_strictArray (by norm_num)).trans
        (run_inSlot_error (Eff.run_bind_error hitems)))⟩

end Amf

namespace ConnectCapabilities

/-- A block with one text of `n` bytes. -/
def zeros (n : ℕ) : ConnectCapabilities :=
  { default with fourccList := [String.ofList (List.replicate n '\x00')] }

/-- The length of a text is sent modulo its field. -/
lemma encode_zeros {n : ℕ} (hlong : 65535 < n) (hfield : n % 256 ^ 4 = 0) :
    ∃ rest, Amf.encode (.object ([] ++ (zeros n).encodeInto ++ []))
      = 0x03 :: (Amf.writeUtf8Short "fourCcList" ++ (0x0A :: (Bytes.toBe 4 1
        ++ (0x0C :: Amf.writeUtf8Long "" ++ (Amf.writeUtf8Short "" ++ 0x00 :: rest))))) := by
  obtain ⟨k, rfl⟩ := Nat.exists_eq_add_of_le' (show 3 ≤ n by omega)
  have hlength : Bytes.toBe 4 (k + 3) = Bytes.toBe 4 0 := by rw [← Bytes.toBe_mod, hfield]
  have htext : Amf.encode (.string (String.ofList (List.replicate (k + 3) '\x00')))
      = 0x0C :: (Bytes.toBe 4 0 ++ List.replicate (k + 3) 0) := by
    rw [Amf.encode, Amf.writeUtf8Long, Amf.utf8_zeros, List.length_replicate, hlength,
      if_neg (by omega)]
  have hpairs : [] ++ (zeros (k + 3)).encodeInto ++ [] = [("fourCcList", Amf0Value.strictArray
      [.string (String.ofList (List.replicate (k + 3) '\x00'))])] := rfl
  refine ⟨List.replicate k 0 ++ [0, 0, 9], ?_⟩
  rw [hpairs, Amf.encode, Amf.writeObjectBody, Amf.writeObjectBody, Amf.encode, Amf.encodeItems,
    Amf.encodeItems, htext]
  have hempty : Amf.writeUtf8Short "" = [0, 0] := by simp [Amf.writeUtf8Short, Bytes.toBe]
  simp [Amf.writeUtf8Long, List.replicate_succ, hempty]

/-- **A long text** is sent with a length of zero, and what follows it is no property. -/
lemma not_survives_zeros {n : ℕ} (hlong : 65535 < n) (hfield : n % 256 ^ 4 = 0) :
    ¬ (zeros n).Survives [] [] := by
  rintro ⟨v, hv, -⟩
  obtain ⟨rest, hbytes⟩ := encode_zeros hlong hfield
  have hkey : Key "fourCcList" := by decide +kernel
  have hitem : Amf.Reads 62 ([.object []] ++ [.strictArray []])
      (0x0C :: Amf.writeUtf8Long "" ++ (Amf.writeUtf8Short "" ++ 0x00 :: rest)) (.value (.string ""))
      ([.object []] ++ [.strictArray []]) (Amf.writeUtf8Short "" ++ 0x00 :: rest) :=
    .scalar (.longString (by decide))
  have hcount : [Amf0Value.string ""].length < 256 ^ 4 := by norm_num
  have hfirst : Amf.Reads 63 [.object []] (0x0A :: (Bytes.toBe 4 1
      ++ (0x0C :: Amf.writeUtf8Long "" ++ (Amf.writeUtf8Short "" ++ 0x00 :: rest))))
      (.value (.strictArray [.string ""])) [.object [], .strictArray [.string ""]]
      (Amf.writeUtf8Short "" ++ 0x00 :: rest) := .strictArray hcount (hitem.item .noItem)
  obtain ⟨e, hsecond⟩ := Amf.run_readProperty_zeros (Amf.decodeAtDepth 63) rest _
  rw [hbytes, Amf.decode_object_error hkey hfirst hsecond] at hv
  cases hv

/-- **A deep value** beside a block is not decoded. -/
lemma not_survives_nest {n : ℕ} (h : 63 ≤ n) :
    ¬ Survives { default with objectEncoding := some 0 } [] [("a", Amf.nest n)] := by
  rintro ⟨v, hv, -⟩
  have hbytes : Amf.encode (.object ([] ++ encodeInto { default with objectEncoding := some 0 }
      ++ [("a", Amf.nest n)])) = 0x03 :: (Amf.writeUtf8Short "objectEncoding"
        ++ (Amf.encode (.number (.ofNat 0)) ++ (Amf.writeUtf8Short "a"
          ++ (Amf.encode (Amf.nest n) ++ [0, 0, 9])))) := rfl
  have hfirst : Amf.Reads 63 [.object []] (Amf.encode (.number (.ofNat 0)) ++ (Amf.writeUtf8Short "a"
      ++ (Amf.encode (Amf.nest n) ++ [0, 0, 9]))) _ _ _ :=
    Amf.reads_encode (.number (.ofNat 0)) trivial (by decide)
  obtain ⟨e, t, hnest⟩ := @Amf.decodeAtDepth_nest [0, 0, 9] _ 63 n h
  have hkeys : Key "objectEncoding" ∧ Key "a" := by decide +kernel
  have hsecond := (Amf.run_readProperty hkeys.2).trans (Eff.run_bind_error hnest)
  rw [hbytes, Amf.decode_object_error hkeys.1 hfirst hsecond] at hv
  cases hv

end ConnectCapabilities

/-- **Not every block**, and not among every properties: a text of 4 GiB is sent with a length of zero,
and an array of 63 levels around a scalar is too deep for the decoder inside an object. -/
theorem capabilities_survive_not_all :
    (¬ ∀ c : ConnectCapabilities, (∀ k ∈ c.videoFourccInfoMap.keys, Key k) →
      (∀ k ∈ c.audioFourccInfoMap.keys, Key k) → c.Survives [] []) ∧
    ¬ ∀ (c : ConnectCapabilities) (post : List (String × Amf0Value)), c.Carried →
      (∀ p ∈ post, p.1 ∉ ConnectCapabilities.properties) → EncodablePairs post →
      c.Survives [] post := by
  constructor
  · intro h
    exact ConnectCapabilities.not_survives_zeros (by norm_num) (by norm_num)
      (h (.zeros (2 ^ 32)) nofun nofun)
  · intro h
    have hcarried : ConnectCapabilities.Carried
        { ConnectCapabilities.default with objectEncoding := some 0 } :=
      ⟨by decide, nofun, nofun, nofun⟩
    refine ConnectCapabilities.not_survives_nest (le_refl 63) (h _ _ hcarried ?_ ?_)
    · simp [ConnectCapabilities.properties]
    · exact ⟨by decide +kernel, Amf.encodable_nest 63, trivial⟩

end Rtmp
