import Rtmp.Amf3.Decoder

/-!
The AMF3 encoder: every value literally, the reference tables are not used.

* `writeU29`: the variable-length integer, in the shortest of its four forms;
* `encode`: one value;
* `readU29_writeU29`, `readI29_writeI29`: integers come back, with any input after them;
* **`integers_come_back`**: they do at any offset, and no shorter form is read as the same integer.
-/

namespace Rtmp.Amf3

/-- A variable-length integer; bits above the twenty-ninth are dropped. -/
def writeU29 (value : ℕ) : List UInt8 :=
  let v := value &&& 0x1FFFFFFF
  if v < 0x80 then [UInt8.ofNat v]
  else if v < 0x4000 then [UInt8.ofNat (v >>> 7 ||| 0x80), UInt8.ofNat (v &&& 0x7F)]
  else if v < 0x200000 then
    [UInt8.ofNat (v >>> 14 ||| 0x80), UInt8.ofNat (v >>> 7 &&& 0x7F ||| 0x80),
      UInt8.ofNat (v &&& 0x7F)]
  else
    [UInt8.ofNat (v >>> 22 &&& 0x7F ||| 0x80), UInt8.ofNat (v >>> 15 &&& 0x7F ||| 0x80),
      UInt8.ofNat (v >>> 8 &&& 0x7F ||| 0x80), UInt8.ofNat (v &&& 0xFF)]

def writeI29 (n : Int32) : List UInt8 := writeU29 (n.toUInt32.toNat &&& 0x1FFFFFFF)

/-- A length or a count, with the flag of a literal. -/
def writeLiteral (n : ℕ) : List UInt8 := writeU29 (n <<< 1 ||| 1)

/-- A string in literal form. -/
def writeU29String (s : String) : List UInt8 :=
  writeLiteral (Utf8.encode s).length ++ Utf8.encode s

def writeFlag (b : Bool) : UInt8 := if b then 1 else 0

/-- The header of an object with inline traits, the number of its sealed members above the flags. -/
def objectHeader (isDynamic : Bool) (sealedCount : ℕ) : ℕ :=
  (if isDynamic then 0b0011 ||| 0b1000 else 0b0011) ||| sealedCount <<< 4

mutual

/-- The bytes of one value. -/
def encode : Amf3Value → List UInt8
  | .undefined => [0x00]
  | .null => [0x01]
  | .boolean false => [0x02]
  | .boolean true => [0x03]
  | .integer n =>
      if -(1 <<< 28) ≤ n.toInt ∧ n.toInt < 1 <<< 28 then 0x04 :: writeI29 n
      else 0x05 :: Bytes.toBe 8 (Binary64.ofInt n.toInt).bits.toNat
  | .double n => 0x05 :: Bytes.toBe 8 n.bits.toNat
  | .string s => 0x06 :: writeU29String s
  | .xmlDocument s => 0x07 :: writeU29String s
  | .xml s => 0x0B :: writeU29String s
  | .date millis => 0x08 :: (writeU29 1 ++ Bytes.toBe 8 millis.bits.toNat)
  | .byteArray bytes => 0x0C :: (writeLiteral bytes.length ++ bytes)
  | .array dense assoc =>
      0x09 :: (writeLiteral dense.length ++ (encodeMembers assoc ++ encodeItems dense))
  | .object className _ _ _ (some body) =>
      0x0A :: (writeU29 0b0111 ++ (writeU29String className ++ body))
  | .object className isDynamic sealedMembers dynamicMembers none =>
      0x0A :: (writeU29 (objectHeader isDynamic sealedMembers.length)
        ++ (writeU29String className
          ++ ((sealedMembers.map fun p => writeU29String p.1).flatten
            ++ (encodeValues sealedMembers
              ++ if isDynamic then encodeMembers dynamicMembers else []))))
  | .vectorInt fixed items =>
      0x0D :: (writeLiteral items.length
        ++ (writeFlag fixed :: (items.map fun n => Bytes.toBe 4 n.toUInt32.toNat).flatten))
  | .vectorUInt fixed items =>
      0x0E :: (writeLiteral items.length
        ++ (writeFlag fixed :: (items.map fun n => Bytes.toBe 4 n.toNat).flatten))
  | .vectorDouble fixed items =>
      0x0F :: (writeLiteral items.length
        ++ (writeFlag fixed :: (items.map fun n => Bytes.toBe 8 n.bits.toNat).flatten))
  | .vectorObject fixed objectTypeName items =>
      0x10 :: (writeLiteral items.length
        ++ (writeFlag fixed :: (writeU29String objectTypeName ++ encodeItems items)))
  | .dictionary weakKeys entries =>
      0x11 :: (writeLiteral entries.length ++ (writeFlag weakKeys :: encodeEntries entries))

/-- String-keyed members and the empty key that ends them. -/
def encodeMembers : List (String × Amf3Value) → List UInt8
  | [] => writeU29 1
  | (k, v) :: ps => writeU29String k ++ (encode v ++ encodeMembers ps)

/-- The values of sealed members; their names come earlier. -/
def encodeValues : List (String × Amf3Value) → List UInt8
  | [] => []
  | (_, v) :: ps => encode v ++ encodeValues ps

/-- Values in a row: also the encoding of a whole packet. -/
def encodeItems : List Amf3Value → List UInt8
  | [] => []
  | v :: vs => encode v ++ encodeItems vs

def encodeEntries : List (Amf3Value × Amf3Value) → List UInt8
  | [] => []
  | (k, v) :: es => encode k ++ (encode v ++ encodeEntries es)

end

/-! ### Integers -/

section U29

variable {u : List UInt8} {n k value : ℕ}

lemma continued_byte (h : n < 2 ^ 7) :
    UInt8.ofNat (n ||| 0x80) &&& 0x80 ≠ 0 ∧ (UInt8.ofNat (n ||| 0x80) &&& 0x7F).toNat = n := by
  revert n
  decide

lemma last_byte (h : n < 2 ^ 7) :
    UInt8.ofNat n &&& 0x80 = 0 ∧ (UInt8.ofNat n).toNat = n := by
  revert n
  decide

/-- A byte with the continuation bit adds its seven bits. -/
lemma readU29From_continued (h : n < 2 ^ 7) :
    (readU29From (k + 1) value).run (UInt8.ofNat (n ||| 0x80) :: u)
      = (readU29From k (value <<< 7 ||| n)).run u := by
  have hbyte : readU8.run (UInt8.ofNat (n ||| 0x80) :: u) = (.ok _, u) := rfl
  obtain ⟨hflag, hbits⟩ := continued_byte h
  rw [readU29From, Eff.run_bind_ok hbyte, if_neg hflag, hbits]

/-- A byte without it ends the integer. -/
lemma readU29From_last (h : n < 2 ^ 7) :
    (readU29From (k + 1) value).run (UInt8.ofNat n :: u) = (.ok (value <<< 7 ||| n), u) := by
  have hbyte : readU8.run (UInt8.ofNat n :: u) = (.ok _, u) := rfl
  obtain ⟨hflag, hbits⟩ := last_byte h
  rw [readU29From, Eff.run_bind_ok hbyte, if_pos hflag, hbits]
  rfl

/-- The fourth byte is taken whole. -/
lemma readU29From_whole (h : n < 2 ^ 8) :
    (readU29From 0 value).run (UInt8.ofNat n :: u) = (.ok (value <<< 8 ||| n), u) := by
  have hbyte : readU8.run (UInt8.ofNat n :: u) = (.ok _, u) := rfl
  rw [readU29From, Eff.run_bind_ok hbyte, UInt8.toNat_ofNat_of_lt' h]
  rfl

/-- The high bits moved back up, and the low ones. -/
lemma shift_join (v k : ℕ) : (v >>> k) <<< k ||| v % 2 ^ k = v := by
  rw [← Nat.shiftLeft_add_eq_or_of_lt (Nat.mod_lt _ (by positivity)), Nat.shiftRight_eq_div_pow,
    Nat.shiftLeft_eq, Nat.div_add_mod']

/-- **Integers come back**: a written integer of at most twenty-nine bits is read back, and the
reader stops at its end. -/
theorem readU29_writeU29 {v : ℕ} (h : v < 2 ^ 29) :
    readU29.run (writeU29 v ++ u) = (.ok v, u) := by
  have hmask : v &&& 0x1FFFFFFF = v := Nat.and_two_pow_sub_one_of_lt_two_pow h
  have h7 : ∀ w, w &&& 0x7F = w % 2 ^ 7 := fun w => Nat.and_two_pow_sub_one_eq_mod w 7
  have h8 : v &&& 0xFF = v % 2 ^ 8 := Nat.and_two_pow_sub_one_eq_mod v 8
  simp only [writeU29, hmask, h7, h8, readU29]
  -- one to four bytes, of which the fourth has eight bits
  split_ifs with h1 h2 h3
  · rw [List.singleton_append, readU29From_last h1, Nat.zero_shiftLeft, Nat.zero_or]
  · have hhigh : v >>> 7 < 2 ^ 7 := by rw [Nat.shiftRight_eq_div_pow]; omega
    rw [List.cons_append, readU29From_continued hhigh, List.singleton_append,
      readU29From_last (Nat.mod_lt _ (by positivity)), Nat.zero_shiftLeft, Nat.zero_or, shift_join]
  · have hhigh : v >>> 14 < 2 ^ 7 := by rw [Nat.shiftRight_eq_div_pow]; omega
    have hmid := shift_join (v >>> 7) 7
    rw [← Nat.shiftRight_add] at hmid
    rw [List.cons_append, readU29From_continued hhigh, List.cons_append,
      readU29From_continued (Nat.mod_lt _ (by positivity)), List.singleton_append,
      readU29From_last (Nat.mod_lt _ (by positivity)), Nat.zero_shiftLeft, Nat.zero_or, hmid,
      shift_join]
  · have hhigh : v >>> 22 < 2 ^ 7 := by rw [Nat.shiftRight_eq_div_pow]; omega
    have hmid := shift_join (v >>> 15) 7
    have hlow := shift_join (v >>> 8) 7
    rw [← Nat.shiftRight_add] at hmid hlow
    rw [Nat.mod_eq_of_lt (a := v >>> 22) hhigh, List.cons_append, readU29From_continued hhigh,
      List.cons_append, readU29From_continued (Nat.mod_lt _ (by positivity)), List.cons_append,
      readU29From_continued (Nat.mod_lt _ (by positivity)), List.singleton_append,
      readU29From_whole (Nat.mod_lt _ (by positivity)), Nat.zero_shiftLeft, Nat.zero_or, hmid, hlow,
      shift_join]

/-- A signed integer of twenty-nine bits is small as an unsigned one, or has its top bits set. -/
lemma toNat_of_i29 {n : Int32} (hlo : -2 ^ 28 ≤ n.toInt) (hhi : n.toInt < 2 ^ 28) :
    n.toUInt32.toNat < 2 ^ 28 ∨
      7 * 2 ^ 29 + 2 ^ 28 ≤ n.toUInt32.toNat ∧ n.toUInt32.toNat < 8 * 2 ^ 29 := by
  have hcond : n.toInt = if 2 * n.toUInt32.toNat < 2 ^ 32 then (n.toUInt32.toNat : ℤ)
      else (n.toUInt32.toNat : ℤ) - (2 ^ 32 : ℕ) := BitVec.toInt_eq_toNat_cond n.toBitVec
  have hlt : n.toUInt32.toNat < 2 ^ 32 := n.toUInt32.toNat_lt
  split_ifs at hcond <;> omega

/-- Signed integers of twenty-nine bits come back. -/
theorem readI29_writeI29 {n : Int32} (hlo : -2 ^ 28 ≤ n.toInt) (hhi : n.toInt < 2 ^ 28) :
    readI29.run (writeI29 n ++ u) = (.ok n, u) := by
  set w := n.toUInt32.toNat with hw
  have hmask : w &&& 0x1FFFFFFF = w % 2 ^ 29 := Nat.and_two_pow_sub_one_eq_mod _ 29
  have hlt : w % 2 ^ 29 < 2 ^ 29 := Nat.mod_lt _ (by positivity)
  have hback : (UInt32.ofNat w).toInt32 = n := by rw [hw, UInt32.ofNat_toNat, Int32.toInt32_toUInt32]
  have hsign : w % 2 ^ 29 &&& 0x10000000 = if (w % 2 ^ 29).testBit 28 then 2 ^ 28 else 0 :=
    Bytes.and_two_pow _ 28
  rw [writeI29, hmask, readI29, Eff.run_bind_ok (readU29_writeU29 hlt), hsign]
  rcases toNat_of_i29 hlo hhi with hpos | ⟨hneg, htop⟩
  · have hmod : w % 2 ^ 29 = w := Nat.mod_eq_of_lt (by omega)
    have hbit : w.testBit 28 = false := Nat.testBit_lt_two_pow hpos
    rw [hmod, hbit, if_neg (by simp), hback]
    rfl
  · have hmod : w % 2 ^ 29 = w - 7 * 2 ^ 29 := by omega
    have hbit : (w - 7 * 2 ^ 29).testBit 28 = true := by
      rw [Nat.testBit_eq_decide_div_mod_eq, decide_eq_true_eq]
      omega
    have hjoin : w - 7 * 2 ^ 29 ||| 0xE0000000 = w := by
      have hadd := Nat.shiftLeft_add_eq_or_of_lt (b := w - 7 * 2 ^ 29) (i := 29) (by omega) 7
      rw [Nat.or_comm, ← show 7 <<< 29 = 0xE0000000 from rfl, ← hadd, Nat.shiftLeft_eq]
      omega
    rw [hmod, hbit, if_pos (by decide), hjoin, hback]
    rfl

/-- Seven bits moved in below. -/
lemma shift_or_lt {b : ℕ} (h : b < 2 ^ 7) : value <<< 7 ||| b < (value + 1) * 2 ^ 7 := by
  rw [← Nat.shiftLeft_add_eq_or_of_lt h, Nat.shiftLeft_eq, Nat.add_mul, Nat.one_mul]
  exact Nat.add_lt_add_left h _

lemma toNat_lt_of_last {b : UInt8} (h : b &&& 0x80 = 0) : b.toNat < 2 ^ 7 := by
  revert h
  exact Bytes.forall_byte (p := fun b => b &&& 0x80 = 0 → b.toNat < 2 ^ 7) (by decide +kernel) b

lemma toNat_low_lt (b : UInt8) : (b &&& 0x7F).toNat < 2 ^ 7 :=
  Bytes.forall_byte (p := fun b => (b &&& 0x7F).toNat < 2 ^ 7) (by decide +kernel) b

/-- What is read from up to `n` bytes has seven bits of each. -/
lemma readU29From_lt {v : ℕ} {u u' : List UInt8} (h : (readU29From n value).run u = (.ok v, u')) :
    ∃ k, u.length = u'.length + k ∧ (k ≤ n → v < (value + 1) * 2 ^ (7 * k)) := by
  induction n generalizing value u with
  | zero =>
      obtain ⟨b, u₁, hb, h⟩ := Eff.run_bind_eq_ok.mp h
      cases h
      rw [Scan.byte_eq_ok.mp hb]
      exact ⟨1, rfl, fun hk => absurd hk (by decide)⟩
  | succ n ih =>
      obtain ⟨b, u₁, hb, h⟩ := Eff.run_bind_eq_ok.mp h
      rw [Scan.byte_eq_ok.mp hb]
      split_ifs at h with hlast
      · cases h
        exact ⟨1, rfl, fun _ => shift_or_lt (toNat_lt_of_last hlast)⟩
      · obtain ⟨k, hk, hv⟩ := ih h
        refine ⟨k + 1, by rw [List.length_cons, hk]; rfl, fun hle => ?_⟩
        have hstep : value <<< 7 ||| (b &&& 0x7F).toNat < (value + 1) * 2 ^ 7 :=
          shift_or_lt (toNat_low_lt b)
        calc v < (value <<< 7 ||| (b &&& 0x7F).toNat) * 2 ^ (7 * k) + 2 ^ (7 * k) := by
              have hrest := hv (Nat.le_of_succ_le_succ hle)
              rwa [Nat.add_mul, Nat.one_mul] at hrest
          _ = ((value <<< 7 ||| (b &&& 0x7F).toNat) + 1) * 2 ^ (7 * k) := by
            rw [Nat.add_mul, Nat.one_mul]
          _ ≤ (value + 1) * 2 ^ 7 * 2 ^ (7 * k) := Nat.mul_le_mul_right _ hstep
          _ = (value + 1) * 2 ^ (7 * (k + 1)) := by rw [Nat.mul_assoc, ← Nat.pow_add]; congr 2; omega

/-- An integer of `7 * k` bits is written in at most `k` bytes, or in four. -/
lemma length_writeU29_le {v : ℕ} (hv : v < 2 ^ 29) {k : ℕ} (hpos : 0 < k)
    (hk : k ≤ 3 → v < 2 ^ (7 * k)) : (writeU29 v).length ≤ k := by
  have hmask : v &&& 0x1FFFFFFF = v := Nat.and_two_pow_sub_one_of_lt_two_pow hv
  simp only [writeU29, hmask]
  by_cases hthree : k ≤ 3
  · have hlt := hk hthree
    interval_cases k
    all_goals split_ifs
    all_goals simp only [List.length_cons, List.length_nil]
    all_goals omega
  · split_ifs
    all_goals simp only [List.length_cons, List.length_nil]
    all_goals omega

/-- **Integers come back** from wherever they were written, the reader stops where the writer did, and
what it was given is the shortest that it reads as that integer. -/
theorem integers_come_back :
    (∀ v < 2 ^ 29, ∀ before after : List UInt8,
      readU29.run ((before ++ writeU29 v ++ after).drop before.length) = (.ok v, after) ∧
      (before ++ writeU29 v ++ after).drop (before.length + (writeU29 v).length) = after ∧
      (writeU29 v).length ∈ [1, 2, 3, 4] ∧
      ∀ bytes, readU29.run bytes = (.ok v, []) → (writeU29 v).length ≤ bytes.length) ∧
    ∀ i : Int32, -2 ^ 28 ≤ i.toInt → i.toInt < 2 ^ 28 → ∀ before after : List UInt8,
      readI29.run ((before ++ writeI29 i ++ after).drop before.length) = (.ok i, after) := by
  refine ⟨fun v hv before after => ⟨?_, ?_, ?_, fun bytes hbytes => ?_⟩,
    fun i hlo hhi before after => ?_⟩
  · rw [List.append_assoc, List.drop_left]
    exact readU29_writeU29 hv
  · rw [← List.length_append, List.drop_left]
  · simp only [writeU29]
    split_ifs <;> simp
  · obtain ⟨k, hk, hlt⟩ := readU29From_lt hbytes
    have hshrinks := readU29From_shrinks hbytes
    rw [hk, List.length_nil, Nat.zero_add]
    refine length_writeU29_le hv ?_ fun hthree => ?_
    · rw [hk] at hshrinks
      omega
    · have hbound := hlt hthree
      omega
  · rw [List.append_assoc, List.drop_left]
    exact readI29_writeI29 hlo hhi

/-- The greatest integer, between other bytes. -/
theorem integers_come_back_greatest :
    readU29.run (([7] ++ writeU29 (2 ^ 29 - 1) ++ [9]).drop 1) = (.ok (2 ^ 29 - 1), [9]) :=
  (integers_come_back.1 (2 ^ 29 - 1) (by decide) [7] [9]).1

end U29

end Rtmp.Amf3
