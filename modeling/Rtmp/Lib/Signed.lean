import Mathlib.Tactic

/-!
Integers and the words that stand for them.

* `Fits`: the integers that a signed 64-bit word holds;
* `toInt_ofInt_iff`: a wrapped result is the exact one if and only if that fits;
* `signed_sub`: the difference of two 32-bit words, taken as signed, is the difference of the integers
  they were cut from, if that is small.
-/

namespace Rtmp

namespace Signed

/-- The integer is one of the values of a signed 64-bit word. -/
def Fits (n : ℤ) : Prop := -2 ^ 63 ≤ n ∧ n < 2 ^ 63

instance : DecidablePred Fits := fun n => inferInstanceAs (Decidable (-2 ^ 63 ≤ n ∧ n < 2 ^ 63))

lemma fits_toInt (x : Int64) : Fits x.toInt := ⟨x.le_toInt, x.toInt_lt⟩

/-- What fits survives. -/
@[simp] lemma toInt_ofInt_iff {n : ℤ} : (Int64.ofInt n).toInt = n ↔ Fits n := by
  constructor
  · intro h
    rw [← h]
    exact fits_toInt _
  · rintro ⟨hlo, hhi⟩
    exact Int64.toInt_ofInt_of_le hlo hhi

lemma Fits.toInt {n : ℤ} (h : Fits n) : (Int64.ofInt n).toInt = n := toInt_ofInt_iff.mpr h

/-- A 32-bit word, widened. -/
lemma toInt64_toUInt64 (x : UInt32) : x.toUInt64.toInt64 = Int64.ofInt x.toNat := by
  apply Int64.toBitVec.inj
  simp [← BitVec.toNat_inj]

/-- A signed 32-bit word, widened. -/
lemma toInt64_eq_ofInt (x : Int32) : x.toInt64 = Int64.ofInt x.toInt := by
  rw [← Int32.toInt_toInt64, Int64.ofInt_toInt]

lemma ofInt_sub (a b : ℤ) : UInt32.ofInt (a - b) = UInt32.ofInt a - UInt32.ofInt b := by
  rw [sub_eq_add_neg, UInt32.ofInt_add, UInt32.ofInt_neg, UInt32.sub_eq_add_neg]

lemma toNat_ofInt (a : ℤ) : ((UInt32.ofInt a).toNat : ℤ) = a % 2 ^ 32 := by
  rw [UInt32.ofInt, UInt32.toNat_ofNat']
  omega

/-- A 32-bit word that is the rest of a small number is that number once it is taken as signed. -/
lemma toInt_toInt32_ofInt {d : ℤ} (hlo : -2 ^ 31 ≤ d) (hhi : d < 2 ^ 31) :
    (UInt32.ofInt d).toInt32.toInt = d := by
  have hbits : (UInt32.ofInt d).toInt32.toInt = ((UInt32.ofInt d).toNat : ℤ).bmod (2 ^ 32) :=
    BitVec.toInt_eq_toNat_bmod _
  rw [hbits, toNat_ofInt, Int.bmod_eq_emod]
  split <;> omega

/-- **Serial numbers**: the difference of the words is that of the integers, if it is small. -/
lemma signed_sub {a b : ℤ} (hlo : -2 ^ 31 ≤ a - b) (hhi : a - b < 2 ^ 31) :
    (UInt32.ofInt a - UInt32.ofInt b).toInt32.toInt = a - b := by
  rw [← ofInt_sub, toInt_toInt32_ofInt hlo hhi]

end Signed

end Rtmp
