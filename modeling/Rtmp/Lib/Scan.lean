import Rtmp.Lib.Bytes
import Rtmp.Lib.Eff
import Rtmp.Lib.Utf8

/-!
Reading from the front of a byte list.

The state is the part of the input that has not been read, and a read that does not fit fails with
an error of the caller's choice and reads nothing.  Each read has a lemma for input that was written
for it (`byte_cons`, `bytes_append`, `uintBe_append`, `utf8_append`) and one that says what a read
that succeeded took (`byte_eq_ok`, `bytes_eq_ok`, `uintBe_eq_ok`, `utf8_eq_ok`).  No read, successful
or not, leaves anything but an end of what there was (`Advances`), and none fails with other errors
than it was given (`byte_raises`, `bytes_raises`, `uintBe_raises`, `utf8_raises`).
-/

namespace Scan

variable {ε : Type}

/-- One byte. -/
def byte (truncated : ε) : Eff ε (List UInt8) UInt8 where
  run
    | [] => (.error truncated, [])
    | b :: rest => (.ok b, rest)

/-- `n` bytes; the error may mention how many there were. -/
def bytes (n : ℕ) (truncated : ℕ → ε) : Eff ε (List UInt8) (List UInt8) where
  run rest :=
    if n ≤ rest.length then (.ok (rest.take n), rest.drop n)
    else (.error (truncated rest.length), rest)

/-- An unsigned big-endian number of `n` bytes. -/
def uintBe (n : ℕ) (truncated : ε) : Eff ε (List UInt8) ℕ := do
  let bs ← bytes n fun _ => truncated
  pure (Bytes.ofBe bs)

/-- A string of `n` bytes; the error may quote what is wrong with them. -/
def utf8 (n : ℕ) (truncated : ℕ → ε) (invalid : String → ε) : Eff ε (List UInt8) String := do
  let bs ← bytes n truncated
  match Utf8.decode bs with
  | some s => pure s
  | none => Eff.fail (invalid (Utf8.describeError bs))

/-- Everything that is left. -/
def all : Eff ε (List UInt8) (List UInt8) := Eff.modifyGet fun rest => (rest, [])

section

variable {e : ε} {f : ℕ → ε} {invalid : String → ε} {n : ℕ} {bs rest : List UInt8}

@[simp] lemma byte_cons {b : UInt8} : (byte e).run (b :: rest) = (.ok b, rest) := rfl

lemma bytes_append (hn : bs.length = n) : (bytes n f).run (bs ++ rest) = (.ok bs, rest) := by
  subst hn
  simp [bytes]

lemma uintBe_append {v : ℕ} (hv : v < 256 ^ n) :
    (uintBe n e).run (Bytes.toBe n v ++ rest) = (.ok v, rest) := by
  rw [uintBe, Eff.run_bind_ok (bytes_append (Bytes.length_toBe n v)), Bytes.ofBe_toBe hv]
  rfl

lemma utf8_append {s : String} (hn : (Utf8.encode s).length = n) :
    (utf8 n f invalid).run (Utf8.encode s ++ rest) = (.ok s, rest) := by
  rw [utf8, Eff.run_bind_ok (bytes_append hn), Utf8.decode_encode]
  rfl

lemma bytes_eq_ok {rest' : List UInt8} :
    (bytes n f).run rest = (.ok bs, rest') ↔ bs.length = n ∧ rest = bs ++ rest' := by
  constructor
  · intro h
    rw [bytes] at h
    by_cases hn : n ≤ rest.length
    · simp only [if_pos hn, Prod.mk.injEq, Except.ok.injEq] at h
      obtain ⟨rfl, rfl⟩ := h
      exact ⟨List.length_take_of_le hn, (List.take_append_drop n rest).symm⟩
    · simp only [if_neg hn] at h
      cases h
  · rintro ⟨hn, rfl⟩
    exact bytes_append hn

lemma byte_eq_ok {b : UInt8} {rest' : List UInt8} :
    (byte e).run rest = (.ok b, rest') ↔ rest = b :: rest' := by
  constructor
  · intro h
    cases rest with
    | nil => cases h
    | cons c rest => cases h; rfl
  · rintro rfl
    rfl

lemma uintBe_eq_ok {v : ℕ} {rest' : List UInt8} :
    (uintBe n e).run rest = (.ok v, rest') ↔ v < 256 ^ n ∧ rest = Bytes.toBe n v ++ rest' := by
  constructor
  · intro h
    obtain ⟨bs, s, hbs, hv⟩ := Eff.run_bind_eq_ok.mp h
    obtain ⟨rfl, rfl⟩ := bytes_eq_ok.mp hbs
    cases hv
    exact ⟨Bytes.ofBe_lt bs, by rw [Bytes.toBe_ofBe]⟩
  · rintro ⟨hv, rfl⟩
    exact uintBe_append hv

lemma utf8_eq_ok {s : String} {rest' : List UInt8} :
    (utf8 n f invalid).run rest = (.ok s, rest')
      ↔ (Utf8.encode s).length = n ∧ rest = Utf8.encode s ++ rest' := by
  constructor
  · intro h
    obtain ⟨bs, t, hbs, hs⟩ := Eff.run_bind_eq_ok.mp h
    obtain ⟨rfl, rfl⟩ := bytes_eq_ok.mp hbs
    cases hdec : Utf8.decode bs with
    | none =>
        rw [hdec] at hs
        cases hs
    | some s' =>
        rw [hdec] at hs
        cases hs
        rw [Utf8.encode_of_decode hdec]
        exact ⟨rfl, rfl⟩
  · rintro ⟨hn, rfl⟩
    exact utf8_append hn

end

/-! ### The errors of a read -/

section Raises

variable {P : ε → Prop} {e : ε} {f : ℕ → ε} {invalid : String → ε} {n : ℕ}

lemma byte_raises (h : P e) : Eff.Raises (fun _ => True) P (byte e) := by
  refine .of_errors fun s e' he => ?_
  cases s with
  | nil => exact Except.error.inj he ▸ h
  | cons b rest => cases he

lemma bytes_raises (h : ∀ left, P (f left)) : Eff.Raises (fun _ => True) P (bytes n f) := by
  refine .of_errors fun s e' he => ?_
  by_cases hn : n ≤ s.length
  · simp only [bytes, if_pos hn] at he
    cases he
  · simp only [bytes, if_neg hn] at he
    exact Except.error.inj he ▸ h s.length

lemma uintBe_raises (h : P e) : Eff.Raises (fun _ => True) P (uintBe n e) :=
  (bytes_raises fun _ => h).bind fun _ => .pure _

lemma utf8_raises (h : ∀ left, P (f left)) (hinvalid : ∀ text, P (invalid text)) :
    Eff.Raises (fun _ => True) P (utf8 n f invalid) := by
  refine (bytes_raises h).bind fun bs => ?_
  cases Utf8.decode bs with
  | none => exact .fail (hinvalid _)
  | some s => exact .pure s

lemma all_raises : Eff.Raises (fun _ => True) P (all : Eff ε (List UInt8) (List UInt8)) :=
  .modifyGet fun _ _ => trivial

end Raises

/-! ### What is left -/

section Advances

variable {τ : Type}

/-- What is left in the second state is an end of what was left in the first. -/
def Advances (s t : List UInt8 × τ) : Prop := t.1 <:+ s.1

instance refl_advances : Std.Refl (Advances (τ := τ)) := ⟨fun s => List.suffix_refl s.1⟩

instance trans_advances : IsTrans (List UInt8 × τ) Advances := ⟨fun _ _ _ hst htu => htu.trans hst⟩

variable {e : ε} {f : ℕ → ε} {invalid : String → ε} {n : ℕ}

lemma byte_advances : Eff.Along (flip List.IsSuffix) (byte e) := by
  intro s
  cases s with
  | nil => exact List.suffix_refl _
  | cons b rest => exact List.suffix_cons b rest

lemma bytes_advances : Eff.Along (flip List.IsSuffix) (bytes n f) := by
  intro s
  by_cases hn : n ≤ s.length
  · simp only [bytes, if_pos hn]
    exact List.drop_suffix n s
  · simp only [bytes, if_neg hn]
    exact List.suffix_refl s

instance refl_suffix : Std.Refl (flip (List.IsSuffix (α := UInt8))) := ⟨fun s => List.suffix_refl s⟩

instance trans_suffix : IsTrans (List UInt8) (flip List.IsSuffix) :=
  ⟨fun _ _ _ hst htu => htu.trans hst⟩

lemma uintBe_advances : Eff.Along (flip List.IsSuffix) (uintBe n e) :=
  bytes_advances.bind fun _ => .pure _

lemma utf8_advances : Eff.Along (flip List.IsSuffix) (utf8 n f invalid) := by
  refine bytes_advances.bind fun bs => ?_
  cases Utf8.decode bs with
  | none => exact .fail _
  | some s => exact .pure s

end Advances

end Scan
