import Mathlib.Tactic

/-!
IEEE 754 double-precision numbers as bit patterns.

A number is compared, converted and printed through its exact value: every finite double is an
integer multiple of `2 ^ (-1074)`, and `Binary64.scaled` is that integer.

* `ofNat` and `ofInt`: the doubles of the integers below `2 ^ 53`;
* `isFinite`, `eq`, `le`: the IEEE predicates; a NaN compares with nothing;
* `toU32`: truncation that saturates at both ends;
* `display`: the shortest decimal that reads back as the number, without an exponent;
* `scaled_ofNat`, `toU32_ofNat`, `eq_ofNat_iff`: integers survive the trip.
-/

/-- A double, by its bits. -/
structure Binary64 where
  bits : UInt64
  deriving DecidableEq, Repr

namespace Binary64

/-- Every finite double is an integer divided by two to this power. -/
def grain : ℕ := 1074

/-- Whether the sign bit is set. -/
def negative (x : Binary64) : Bool := decide (2 ^ 63 ≤ x.bits.toNat)

/-- The biased exponent field. -/
def exponent (x : Binary64) : ℕ := x.bits.toNat / 2 ^ 52 % 2 ^ 11

/-- The trailing significand field. -/
def fraction (x : Binary64) : ℕ := x.bits.toNat % 2 ^ 52

/-- Neither an infinity nor a NaN. -/
def isFinite (x : Binary64) : Bool := decide (x.exponent ≠ 2047)

/-- A NaN of any payload. -/
def isNaN (x : Binary64) : Bool := decide (x.exponent = 2047 ∧ x.fraction ≠ 0)

/-- The significand, with the hidden bit of a normal number. -/
def significand (x : Binary64) : ℕ :=
  if x.exponent = 0 then x.fraction else 2 ^ 52 + x.fraction

/-- The magnitude as a multiple of `2 ^ (-1074)`.  An infinity gets the value its bits would have,
which is above every finite one. -/
def magnitude (x : Binary64) : ℕ := x.significand * 2 ^ (x.exponent - 1)

/-- The value as a multiple of `2 ^ (-1074)`. -/
def scaled (x : Binary64) : ℤ := if x.negative then -(x.magnitude : ℤ) else x.magnitude

/-- IEEE equality. -/
def eq (x y : Binary64) : Bool := !x.isNaN && !y.isNaN && decide (x.scaled = y.scaled)

/-- IEEE order. -/
def le (x y : Binary64) : Bool := !x.isNaN && !y.isNaN && decide (x.scaled ≤ y.scaled)

/-- The double of a natural number below `2 ^ 53`. -/
def ofNat (n : ℕ) : Binary64 :=
  if n = 0 then ⟨0⟩
  else ⟨UInt64.ofNat ((n.log2 + 1023) * 2 ^ 52 + (n - 2 ^ n.log2) * 2 ^ (52 - n.log2))⟩

/-- The double of an integer between `-2 ^ 53` and `2 ^ 53`. -/
def ofInt : ℤ → Binary64
  | .ofNat n => ofNat n
  | .negSucc n => ⟨(ofNat (n + 1)).bits ||| 0x8000000000000000⟩

/-- Truncation to 32 bits, saturating at both ends; a NaN gives zero. -/
def toU32 (x : Binary64) : UInt32 :=
  if x.isNaN ∨ x.negative then 0
  else UInt32.ofNat (min (x.magnitude / 2 ^ grain) (2 ^ 32 - 1))

/-! ### Printing -/

/-- The largest `p` with `10 ^ p ≤ q`, for a positive `q` no smaller than `10 ^ (-fuel)`. -/
def decimalExponent (fuel : ℕ) (q : ℚ) : ℤ :=
  if 1 ≤ q then Nat.log 10 q.floor.toNat
  else match fuel with
    | 0 => 0
    | fuel + 1 => decimalExponent fuel (q * 10) - 1

/-- The first number of digits for which a decimal of that length lies between the bounds, and that
decimal as a digit string and a power of ten; of two that do, the nearer one. -/
def shortestDecimal (q low high : ℚ) (closed : Bool) (p : ℤ) : (fuel digits : ℕ) → ℕ × ℤ
  | 0, _ => (0, 0)
  | fuel + 1, digits =>
      let t := p + 1 - digits
      let unit := (10 : ℚ) ^ t
      let n := (q / unit).floor.toNat
      let down := if closed then decide (low ≤ n * unit) else decide (low < n * unit)
      let up := if closed then decide ((n + 1) * unit ≤ high) else decide ((n + 1) * unit < high)
      if up && (!down || decide (unit ≤ 2 * (q - n * unit))) then
        if n + 1 = 10 ^ digits then (1, t + digits) else (n + 1, t)
      else if down then (n, t)
      else shortestDecimal q low high closed p fuel (digits + 1)

/-- A digit string times a power of ten, written without an exponent. -/
def plainDecimal (n : ℕ) (t : ℤ) : String :=
  match t with
  | .ofNat t => n.repr ++ String.ofList (List.replicate t '0')
  | .negSucc t =>
      let ds := n.repr.toList
      let padded := List.replicate (t + 2 - ds.length) '0' ++ ds
      String.ofList (padded.take (padded.length - (t + 1)) ++ ['.']
        ++ padded.drop (padded.length - (t + 1)))

/-- The decimal text of a number. -/
def display (x : Binary64) : String :=
  let sign := if x.negative then "-" else ""
  if x.isNaN then "NaN"
  else if !x.isFinite then sign ++ "inf"
  else if x.magnitude = 0 then sign ++ "0"
  else
    let unit : ℚ := 1 / 2 ^ grain
    let q := x.magnitude * unit
    let gap := 2 ^ (x.exponent - 1) * unit
    let below := if x.fraction = 0 ∧ 1 < x.exponent then gap / 4 else gap / 2
    let (n, t) := shortestDecimal q (q - below) (q + gap / 2) (x.significand % 2 = 0)
      (decimalExponent 400 q) 17 1
    sign ++ plainDecimal n t

example : (display ⟨0x3FF8000000000000⟩, display ⟨0x4059000000000000⟩) = ("1.5", "100") := by
  decide +kernel

/-! ### Integers -/

section OfNat

variable {n : ℕ}

lemma log2_bounds (h0 : n ≠ 0) : 2 ^ n.log2 ≤ n ∧ n < 2 ^ (n.log2 + 1) :=
  ⟨Nat.log2_self_le h0, (Nat.log2_lt h0).mp (Nat.lt_succ_self _)⟩

lemma log2_lt (h0 : n ≠ 0) (h : n < 2 ^ 53) : n.log2 ≤ 52 :=
  Nat.lt_succ_iff.mp ((Nat.log2_lt h0).mpr h)

/-- The fraction field of an integer is what its leading bit leaves, moved up. -/
lemma fraction_ofNat_lt (h0 : n ≠ 0) (h : n < 2 ^ 53) :
    (n - 2 ^ n.log2) * 2 ^ (52 - n.log2) < 2 ^ 52 := by
  obtain ⟨hlo, hhi⟩ := log2_bounds h0
  have hle := log2_lt h0 h
  calc (n - 2 ^ n.log2) * 2 ^ (52 - n.log2)
      < 2 ^ n.log2 * 2 ^ (52 - n.log2) := by
        refine Nat.mul_lt_mul_of_pos_right ?_ (by positivity)
        rw [Nat.pow_succ] at hhi
        omega
    _ = 2 ^ 52 := by rw [← Nat.pow_add, Nat.add_sub_cancel' hle]

lemma bits_ofNat (h0 : n ≠ 0) (h : n < 2 ^ 53) : (ofNat n).bits.toNat
    = (n.log2 + 1023) * 2 ^ 52 + (n - 2 ^ n.log2) * 2 ^ (52 - n.log2) := by
  have hfrac := fraction_ofNat_lt h0 h
  have hle := log2_lt h0 h
  rw [ofNat, if_neg h0, UInt64.toNat_ofNat']
  apply Nat.mod_eq_of_lt
  omega

lemma exponent_ofNat (h0 : n ≠ 0) (h : n < 2 ^ 53) : (ofNat n).exponent = n.log2 + 1023 := by
  have hfrac := fraction_ofNat_lt h0 h
  have hle := log2_lt h0 h
  rw [exponent, bits_ofNat h0 h]
  omega

lemma fraction_ofNat (h0 : n ≠ 0) (h : n < 2 ^ 53) :
    (ofNat n).fraction = (n - 2 ^ n.log2) * 2 ^ (52 - n.log2) := by
  have hfrac := fraction_ofNat_lt h0 h
  rw [fraction, bits_ofNat h0 h]
  omega

lemma not_negative_ofNat (h : n < 2 ^ 53) : (ofNat n).negative = false := by
  rw [negative, decide_eq_false_iff_not]
  by_cases h0 : n = 0
  · rw [ofNat, if_pos h0]
    decide
  · have hfrac := fraction_ofNat_lt h0 h
    have hle := log2_lt h0 h
    rw [bits_ofNat h0 h]
    omega

lemma isFinite_ofNat (h : n < 2 ^ 53) : (ofNat n).isFinite = true := by
  by_cases h0 : n = 0
  · rw [h0]
    decide
  · have hle := log2_lt h0 h
    rw [isFinite, exponent_ofNat h0 h, decide_eq_true_eq]
    omega

lemma isNaN_ofNat (h : n < 2 ^ 53) : (ofNat n).isNaN = false := by
  have hfin := isFinite_ofNat h
  rw [isFinite, decide_eq_true_eq] at hfin
  rw [isNaN, decide_eq_false_iff_not]
  exact fun hnan => hfin hnan.1

/-- The magnitude of an integer is that integer. -/
lemma magnitude_ofNat (h : n < 2 ^ 53) : (ofNat n).magnitude = n * 2 ^ grain := by
  by_cases h0 : n = 0
  · rw [h0, Nat.zero_mul]
    rfl
  · obtain ⟨hlo, -⟩ := log2_bounds h0
    have hle := log2_lt h0 h
    rw [magnitude, significand, exponent_ofNat h0 h, fraction_ofNat h0 h, if_neg (by omega)]
    have hlead : 2 ^ 52 = 2 ^ n.log2 * 2 ^ (52 - n.log2) := by
      rw [← Nat.pow_add, Nat.add_sub_cancel' hle]
    calc (2 ^ 52 + (n - 2 ^ n.log2) * 2 ^ (52 - n.log2)) * 2 ^ (n.log2 + 1023 - 1)
        = (2 ^ n.log2 + (n - 2 ^ n.log2)) * 2 ^ (52 - n.log2) * 2 ^ (n.log2 + 1023 - 1) := by
          rw [hlead, ← Nat.add_mul]
      _ = n * (2 ^ (52 - n.log2) * 2 ^ (n.log2 + 1023 - 1)) := by
          rw [Nat.add_sub_cancel' hlo, Nat.mul_assoc]
      _ = n * 2 ^ grain := by
          rw [← Nat.pow_add, show 52 - n.log2 + (n.log2 + 1023 - 1) = grain by rw [grain]; omega]

/-- **Integers are exact.** -/
theorem scaled_ofNat (h : n < 2 ^ 53) : (ofNat n).scaled = n * 2 ^ grain := by
  rw [scaled, not_negative_ofNat h, if_neg Bool.false_ne_true, magnitude_ofNat h]
  push_cast
  rfl

/-- Integers are equal as doubles when they are equal. -/
lemma eq_ofNat_iff {m : ℕ} (hn : n < 2 ^ 53) (hm : m < 2 ^ 53) :
    eq (ofNat n) (ofNat m) = true ↔ n = m := by
  rw [eq, isNaN_ofNat hn, isNaN_ofNat hm, scaled_ofNat hn, scaled_ofNat hm]
  simp

lemma le_ofNat_iff {m n : ℕ} (hm : m < 2 ^ 53) (hn : n < 2 ^ 53) :
    le (ofNat m) (ofNat n) = true ↔ m ≤ n := by
  rw [le, isNaN_ofNat hm, isNaN_ofNat hn, scaled_ofNat hm, scaled_ofNat hn]
  simp

/-- A 32-bit number comes back out of its double. -/
lemma toU32_ofNat (v : UInt32) : (ofNat v.toNat).toU32 = v := by
  have hv : v.toNat < 2 ^ 53 := v.toNat_lt.trans (by norm_num)
  rw [toU32, isNaN_ofNat hv, not_negative_ofNat hv, if_neg (by simp), magnitude_ofNat hv,
    Nat.mul_div_cancel _ (by positivity), min_eq_left (Nat.le_sub_one_of_lt v.toNat_lt),
    UInt32.ofNat_toNat]

end OfNat

end Binary64
