import Mathlib.Tactic

/-!
Decimal numbers below a bound, as a text is parsed into an unsigned machine integer.

A sign in front and leading zeros are allowed, so that a number has many spellings, and one of them is
the one that is printed.

* `Decimal.parse`: one digit after the other, with the overflow checked at each;
* `Decimal.Spells`: the spellings of a number, and `Decimal.parse_eq_ok_iff` (**the parser accepts
  them and nothing else**).
-/

namespace Decimal

/-- Why a text is no number. -/
inductive Fault where
  | empty
  | invalidDigit
  | overflow
  deriving DecidableEq, Repr

def Fault.display : Fault → String
  | empty => "cannot parse integer from empty string"
  | invalidDigit => "invalid digit found in string"
  | overflow => "number too large to fit in target type"

/-- The digits in `cs`, behind those that made up `value`. -/
def readDigits (bound : ℕ) : (value : ℕ) → (cs : List Char) → Except Fault ℕ
  | value, [] => .ok value
  | value, c :: cs =>
      if c.isDigit then
        let next := 10 * value + (c.toNat - '0'.toNat)
        if next < bound then readDigits bound next cs else .error .overflow
      else .error .invalidDigit

/-- A number below the bound, with at least one digit and perhaps a sign in front. -/
def parse (bound : ℕ) (s : String) : Except Fault ℕ :=
  match s.toList with
  | [] => .error .empty
  | ['+'] => .error .invalidDigit
  | '+' :: cs => readDigits bound 0 cs
  | cs => readDigits bound 0 cs

/-- A spelling of `n`: its digits, behind any number of zeros, and perhaps behind a sign. -/
def Spells (s : String) (n : ℕ) : Prop :=
  ∃ sign zeros, (sign = [] ∨ sign = ['+']) ∧
    s.toList = sign ++ (List.replicate zeros '0' ++ Nat.toDigits 10 n)

variable {bound n value : ℕ} {s : String} {cs : List Char}

/-! ### Digits -/

lemma digit_lt {c : Char} (h : c.isDigit = true) : c.toNat - '0'.toNat < 10 := by
  rw [Char.isDigit, Bool.and_eq_true, decide_eq_true_eq, decide_eq_true_eq] at h
  have hhigh : c.toNat ≤ 57 := h.2
  have hzero : '0'.toNat = 48 := rfl
  omega

lemma digitChar_digit {c : Char} (h : c.isDigit = true) :
    Nat.digitChar (c.toNat - '0'.toNat) = c := by
  rw [Char.isDigit, Bool.and_eq_true, decide_eq_true_eq, decide_eq_true_eq] at h
  have hlow : 48 ≤ c.toNat := h.1
  have hhigh : c.toNat ≤ 57 := h.2
  refine Char.toNat_inj.mp ?_
  have hzero : '0'.toNat = 48 := rfl
  rw [hzero]
  generalize c.toNat = k at hlow hhigh
  interval_cases k <;> rfl

/-- Digits that do not begin with a zero are those that their value is printed with. -/
lemma toDigits_ofDigitChars (hne : cs ≠ []) (hdigit : ∀ c ∈ cs, c.isDigit = true)
    (hhead : cs.head? ≠ some '0') : Nat.toDigits 10 (Nat.ofDigitChars 10 cs 0) = cs := by
  induction cs using List.reverseRecOn with
  | nil => exact absurd rfl hne
  | append_singleton init c ih =>
      have hc : c.isDigit = true := hdigit c (List.mem_append_right _ (List.mem_singleton_self c))
      rw [Nat.ofDigitChars_append, Nat.ofDigitChars_cons, Nat.ofDigitChars_nil]
      by_cases hinit : init = []
      · rw [hinit, Nat.ofDigitChars_nil, Nat.mul_zero, Nat.zero_add,
          Nat.toDigits_of_lt_base (digit_lt hc), digitChar_digit hc, List.nil_append]
      · have hback := ih hinit (fun d hd => hdigit d (List.mem_append_left _ hd))
          (by rwa [List.head?_append_of_ne_nil _ hinit] at hhead)
        have hpos : 0 < Nat.ofDigitChars 10 init 0 := by
          refine Nat.pos_of_ne_zero fun hzero => hhead ?_
          rw [hzero, Nat.toDigits_zero] at hback
          rw [← hback]
          rfl
        rw [← Nat.toDigits_append_toDigits (by decide) hpos (digit_lt hc), hback,
          Nat.toDigits_of_lt_base (digit_lt hc), digitChar_digit hc]

/-- Any digits are zeros and the digits that their value is printed with. -/
lemma exists_zeros (hne : cs ≠ []) (hdigit : ∀ c ∈ cs, c.isDigit = true) :
    ∃ zeros, cs = List.replicate zeros '0' ++ Nat.toDigits 10 (Nat.ofDigitChars 10 cs 0) := by
  induction cs with
  | nil => exact absurd rfl hne
  | cons c cs ih =>
      by_cases hc : c = '0'
      · rw [hc]
        by_cases hcs : cs = []
        · rw [hcs]
          exact ⟨0, rfl⟩
        · obtain ⟨zeros, hzeros⟩ := ih hcs fun d hd => hdigit d (List.mem_cons_of_mem _ hd)
          refine ⟨zeros + 1, ?_⟩
          rw [Nat.ofDigitChars_cons, List.replicate_succ, List.cons_append]
          exact congrArg _ hzeros
      · refine ⟨0, (toDigits_ofDigitChars hne hdigit ?_).symm⟩
        rw [List.head?_cons]
        exact fun h => hc (Option.some.inj h)

/-! ### Parsing -/

lemma value_le_ofDigitChars : value ≤ Nat.ofDigitChars 10 cs value := by
  rw [Nat.ofDigitChars_eq_ofDigitChars_zero]
  exact (Nat.le_mul_of_pos_left value (by positivity)).trans (Nat.le_add_right _ _)

/-- The overflow is found where it happens, or later. -/
lemma readDigits_eq_ok_iff (hvalue : value < bound) :
    readDigits bound value cs = .ok n
      ↔ (∀ c ∈ cs, c.isDigit = true) ∧ Nat.ofDigitChars 10 cs value = n ∧ n < bound := by
  induction cs generalizing value with
  | nil =>
      rw [readDigits, Except.ok.injEq, Nat.ofDigitChars_nil]
      constructor
      · rintro rfl
        exact ⟨nofun, rfl, hvalue⟩
      · exact fun h => h.2.1
  | cons c cs ih =>
      rw [readDigits, Nat.ofDigitChars_cons]
      by_cases hc : c.isDigit = true
      · rw [if_pos hc]
        by_cases hnext : 10 * value + (c.toNat - '0'.toNat) < bound
        · simp only [if_pos hnext, ih hnext, List.forall_mem_cons, hc, true_and]
        · simp only [if_neg hnext]
          refine iff_of_false nofun fun h => hnext ?_
          exact Nat.lt_of_le_of_lt (h.2.1 ▸ value_le_ofDigitChars) h.2.2
      · rw [if_neg hc]
        exact iff_of_false nofun fun h => hc (h.1 c List.mem_cons_self)

/-- The digits behind the sign. -/
lemma readDigits_eq_ok_iff_zeros (hne : cs ≠ []) (hbound : 0 < bound) :
    readDigits bound 0 cs = .ok n
      ↔ n < bound ∧ ∃ zeros, cs = List.replicate zeros '0' ++ Nat.toDigits 10 n := by
  rw [readDigits_eq_ok_iff hbound]
  constructor
  · rintro ⟨hdigit, rfl, hlt⟩
    exact ⟨hlt, exists_zeros hne hdigit⟩
  · rintro ⟨hlt, zeros, rfl⟩
    refine ⟨fun c hc => ?_, ?_, hlt⟩
    · rcases List.mem_append.mp hc with hzero | hdigit
      · rw [List.eq_of_mem_replicate hzero]
        rfl
      · exact Nat.isDigit_of_mem_toDigits (by decide) (by decide) hdigit
    · rw [Nat.ofDigitChars_append, Nat.ofDigitChars_replicate_zero, Nat.mul_zero,
        Nat.ofDigitChars_ten_toDigits]

/-- No number begins with a sign. -/
lemma head_ne_sign (zeros : ℕ) (rest : List Char) :
    List.replicate zeros '0' ++ Nat.toDigits 10 n ≠ '+' :: rest := by
  intro h
  have hmem : '+' ∈ List.replicate zeros '0' ++ Nat.toDigits 10 n := h ▸ List.mem_cons_self
  rcases List.mem_append.mp hmem with hzero | hdigit
  · exact absurd (List.eq_of_mem_replicate hzero) (by decide)
  · exact absurd (Nat.isDigit_of_mem_toDigits (by decide) (by decide) hdigit) (by decide)

/-- **The parser accepts the spellings of the numbers below the bound**, and nothing else. -/
theorem parse_eq_ok_iff (hbound : 0 < bound) :
    parse bound s = .ok n ↔ n < bound ∧ Spells s n := by
  have hdigits : ∀ zeros, List.replicate zeros '0' ++ Nat.toDigits 10 n ≠ [] :=
    fun zeros => List.append_ne_nil_of_right_ne_nil _ Nat.toDigits_ne_nil
  rw [parse, Spells]
  generalize s.toList = l
  split
  case h_1 =>
    refine iff_of_false nofun ?_
    rintro ⟨-, sign, zeros, -, hl⟩
    exact hdigits zeros (List.append_eq_nil_iff.mp hl.symm).2
  case h_2 =>
    refine iff_of_false nofun ?_
    rintro ⟨-, sign, zeros, rfl | rfl, hl⟩
    · exact head_ne_sign zeros [] hl.symm
    · exact hdigits zeros (List.cons.inj hl).2.symm
  case h_3 cs hne =>
    have hcs : cs ≠ [] := fun h => hne (h ▸ rfl)
    rw [readDigits_eq_ok_iff_zeros hcs hbound]
    refine and_congr_right fun _ => ⟨fun ⟨zeros, h⟩ => ⟨['+'], zeros, .inr rfl, h ▸ rfl⟩, ?_⟩
    rintro ⟨sign, zeros, rfl | rfl, hl⟩
    · exact absurd hl.symm (head_ne_sign zeros cs)
    · exact ⟨zeros, (List.cons.inj hl).2⟩
  case h_4 hnil _ hsign =>
    rw [readDigits_eq_ok_iff_zeros hnil hbound]
    refine and_congr_right fun _ => ⟨fun ⟨zeros, h⟩ => ⟨[], zeros, .inl rfl, h⟩, ?_⟩
    rintro ⟨sign, zeros, rfl | rfl, hl⟩
    · exact ⟨zeros, hl⟩
    · exact absurd hl (hsign _)

end Decimal
