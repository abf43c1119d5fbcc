import Mathlib.Tactic

/-!
Fixed-width big-endian and little-endian integers as byte lists.

`toBe n v` is the `n`-byte big-endian form of `v`, `ofBe` reads one back, and the two are inverse
on the values that fit (`ofBe_toBe`, `toBe_ofBe`).  The mask and shift forms that programs write
are shown to be these (`u16_le_bytes`, `u24_shift_or`, `u24_shift_bytes`).
-/

namespace Bytes

/-- The `n`-byte big-endian form of `v`, high bytes above the width dropped. -/
def toBe : ℕ → ℕ → List UInt8
  | 0, _ => []
  | n + 1, v => UInt8.ofNat (v / 256 ^ n) :: toBe n v

/-- The number a list of bytes denotes, most significant byte first. -/
def ofBe : List UInt8 → ℕ
  | [] => 0
  | b :: bs => b.toNat * 256 ^ bs.length + ofBe bs

/-- The `n`-byte little-endian form of `v`. -/
def toLe (n v : ℕ) : List UInt8 := (toBe n v).reverse

/-- The number a list of bytes denotes, least significant byte first. -/
def ofLe (bs : List UInt8) : ℕ := ofBe bs.reverse

@[simp] lemma length_toBe (n v : ℕ) : (toBe n v).length = n := by
  induction n with
  | zero => rfl
  | succ n ih => rw [toBe, List.length_cons, ih]

@[simp] lemma length_toLe (n v : ℕ) : (toLe n v).length = n := by
  rw [toLe, List.length_reverse, length_toBe]

lemma ofBe_lt (bs : List UInt8) : ofBe bs < 256 ^ bs.length := by
  induction bs with
  | nil => simp [ofBe]
  | cons b bs ih =>
      have hb : b.toNat < 256 := b.toNat_lt
      rw [ofBe, List.length_cons, Nat.pow_succ]
      calc b.toNat * 256 ^ bs.length + ofBe bs
          < b.toNat * 256 ^ bs.length + 256 ^ bs.length := by omega
        _ = (b.toNat + 1) * 256 ^ bs.length := by ring
        _ ≤ 256 * 256 ^ bs.length := Nat.mul_le_mul_right _ (by omega)
        _ = 256 ^ bs.length * 256 := by ring

/-- Reading back a big-endian form gives the value modulo the width. -/
lemma ofBe_toBe_mod (n v : ℕ) : ofBe (toBe n v) = v % 256 ^ n := by
  induction n with
  | zero => simp [toBe, ofBe, Nat.mod_one]
  | succ n ih =>
      rw [toBe, ofBe, ih, length_toBe, Nat.pow_succ, Nat.mod_mul, UInt8.toNat_ofNat']
      ring

/-- Reading back a big-endian form of a value that fits gives the value. -/
lemma ofBe_toBe {n v : ℕ} (h : v < 256 ^ n) : ofBe (toBe n v) = v := by
  rw [ofBe_toBe_mod, Nat.mod_eq_of_lt h]

lemma ofLe_toLe {n v : ℕ} (h : v < 256 ^ n) : ofLe (toLe n v) = v := by
  rw [ofLe, toLe, List.reverse_reverse, ofBe_toBe h]

lemma toBe_add_mul_pow (n v k : ℕ) : toBe n (v + k * 256 ^ n) = toBe n v := by
  induction n generalizing k with
  | zero => rfl
  | succ n ih =>
      have hpow : k * 256 ^ (n + 1) = (k * 256) * 256 ^ n := by ring
      have hdiv : (v + k * 256 * 256 ^ n) / 256 ^ n = v / 256 ^ n + k * 256 :=
        Nat.add_mul_div_right _ _ (Nat.pos_of_ne_zero (by positivity))
      rw [toBe, toBe, hpow, ih, hdiv]
      congr 1
      apply UInt8.toNat_inj.mp
      simp [UInt8.toNat_ofNat']

/-- Only the value modulo the width matters. -/
lemma toBe_mod (n v : ℕ) : toBe n (v % 256 ^ n) = toBe n v := by
  conv_rhs => rw [← Nat.mod_add_div v (256 ^ n), Nat.mul_comm, toBe_add_mul_pow]

/-- Writing out the number a byte list denotes gives the list. -/
lemma toBe_ofBe (bs : List UInt8) : toBe bs.length (ofBe bs) = bs := by
  induction bs with
  | nil => rfl
  | cons b bs ih =>
      have hlt := ofBe_lt bs
      rw [List.length_cons, toBe, ofBe, Nat.add_comm, toBe_add_mul_pow, ih,
        Nat.add_mul_div_right _ _ (Nat.pos_of_ne_zero (by positivity)), Nat.div_eq_of_lt hlt,
        Nat.zero_add, UInt8.ofNat_toNat]

/-! ### Two and three bytes, by masks and shifts -/

/-- The mask-and-shift writing of a 16-bit value is its little-endian form. -/
lemma u16_le_bytes (v : UInt16) : [(v &&& 0xFF).toUInt8, (v >>> 8).toUInt8] = toLe 2 v.toNat := by
  have h0 : (v &&& 0xFF).toUInt8 = UInt8.ofNat (v.toNat / 256 ^ 0) := by
    apply UInt8.toNat_inj.mp
    have hmask : v.toNat % 256 &&& 255 = v.toNat % 256 % 256 :=
      Nat.and_two_pow_sub_one_eq_mod (v.toNat % 256) 8
    simp [hmask]
  have h8 : (v >>> 8).toUInt8 = UInt8.ofNat (v.toNat / 256 ^ 1) := by
    apply UInt8.toNat_inj.mp
    simp [Nat.shiftRight_eq_div_pow]
  rw [h0, h8]
  rfl

/-- The shift-and-or reading of three big-endian bytes. -/
lemma u24_shift_or (a b c : UInt8) :
    ((a.toUInt32 <<< 16) ||| (b.toUInt32 <<< 8) ||| c.toUInt32).toNat = ofBe [a, b, c] := by
  have ha : a.toNat < 256 := a.toNat_lt
  have hb : b.toNat < 256 := b.toNat_lt
  have hc : c.toNat < 256 := c.toNat_lt
  have h1 : a.toNat <<< 16 % 2 ^ 32 = a.toNat <<< 16 := by
    rw [Nat.shiftLeft_eq, Nat.mod_eq_of_lt]; omega
  have h2 : b.toNat <<< 8 % 2 ^ 32 = b.toNat <<< 8 := by
    rw [Nat.shiftLeft_eq, Nat.mod_eq_of_lt]; omega
  have h3 : a.toNat <<< 16 ||| b.toNat <<< 8 = (a.toNat <<< 8 + b.toNat) <<< 8 := by
    rw [← Nat.shiftLeft_add_eq_or_of_lt (by rw [Nat.shiftLeft_eq]; omega)]
    simp only [Nat.shiftLeft_eq]; ring
  simp only [UInt32.toNat_or, UInt32.toNat_shiftLeft, UInt8.toNat_toUInt32]
  norm_num only [UInt32.toNat_ofNat]
  norm_num only at h1 h2
  rw [h1, h2, h3, ← Nat.shiftLeft_add_eq_or_of_lt (by omega)]
  simp only [Nat.shiftLeft_eq, ofBe, List.length]
  ring

/-- The shift-and-truncate writing of a 24-bit value is its big-endian form. -/
lemma u24_shift_bytes (v : UInt32) :
    [(v >>> 16).toUInt8, (v >>> 8).toUInt8, v.toUInt8] = toBe 3 v.toNat := by
  have h16 : (v >>> 16).toUInt8 = UInt8.ofNat (v.toNat / 256 ^ 2) := by
    apply UInt8.toNat_inj.mp
    simp [Nat.shiftRight_eq_div_pow]
  have h8 : (v >>> 8).toUInt8 = UInt8.ofNat (v.toNat / 256 ^ 1) := by
    apply UInt8.toNat_inj.mp
    simp [Nat.shiftRight_eq_div_pow]
  have h0 : v.toUInt8 = UInt8.ofNat (v.toNat / 256 ^ 0) := by
    apply UInt8.toNat_inj.mp
    simp
  rw [h16, h8, h0]
  rfl

/-- One bit of a number, by a mask. -/
lemma and_two_pow (v i : ℕ) : v &&& 2 ^ i = if v.testBit i then 2 ^ i else 0 := by
  apply Nat.eq_of_testBit_eq
  intro j
  rw [Nat.testBit_and, Nat.testBit_two_pow]
  by_cases hij : i = j
  · subst hij
    cases v.testBit i <;> simp
  · split_ifs <;> simp [hij]

/-- A property of all bytes, checked on all numbers below 256. -/
lemma forall_byte {p : UInt8 → Prop} (h : ∀ n < 256, p (UInt8.ofNat n)) (b : UInt8) : p b := by
  have hb := h b.toNat b.toNat_lt
  rwa [UInt8.ofNat_toNat] at hb

end Bytes
