import Mathlib.Tactic

/-!
Strings as their UTF-8 bytes: `Utf8.encode` and `Utf8.decode` are inverse to each other
(`decode_encode`, `encode_of_decode`).  `Utf8.describeError` is the text a validator gives for bytes it
refuses, and `Utf8.lossy` the string that stands for them.
-/

namespace Utf8

/-- The bytes of a string. -/
def encode (s : String) : List UInt8 := s.toByteArray.data.toList

/-- The string with these bytes, if they are well-formed UTF-8. -/
def decode (bs : List UInt8) : Option String := String.fromUTF8? ⟨bs.toArray⟩

/-- A byte that continues a sequence. -/
def isContinuation (b : UInt8) : Bool := decide (0x80 ≤ b ∧ b < 0xC0)

/-- How many bytes a sequence takes that starts with `b`; none for a byte that starts no sequence. -/
def sequenceWidth (b : UInt8) : Option ℕ :=
  if b < 0x80 then some 1
  else if 0xC2 ≤ b ∧ b ≤ 0xDF then some 2
  else if 0xE0 ≤ b ∧ b ≤ 0xEF then some 3
  else if 0xF0 ≤ b ∧ b ≤ 0xF4 then some 4
  else none

/-- Whether `c` may come second after `b`: overlong forms, surrogates and values above the last code
point are excluded here. -/
def allowedSecond (b c : UInt8) : Bool :=
  if b = 0xE0 then decide (0xA0 ≤ c ∧ c < 0xC0)
  else if b = 0xED then decide (0x80 ≤ c ∧ c < 0xA0)
  else if b = 0xF0 then decide (0x90 ≤ c ∧ c < 0xC0)
  else if b = 0xF4 then decide (0x80 ≤ c ∧ c < 0x90)
  else isContinuation c

/-- The first defect of a byte list, with the number of valid bytes before it: a sequence that is cut
off by the end, or the length of an invalid one. -/
def firstError (valid : ℕ) : List UInt8 → Option (ℕ × Option ℕ)
  | [] => none
  | b :: rest =>
      match sequenceWidth b, rest with
      | none, _ => some (valid, some 1)
      | some 1, rest => firstError (valid + 1) rest
      | some _, [] => some (valid, none)
      | some 2, c :: rest =>
          if allowedSecond b c then firstError (valid + 2) rest else some (valid, some 1)
      | some _, [c] => if allowedSecond b c then some (valid, none) else some (valid, some 1)
      | some 3, c :: d :: rest =>
          if !allowedSecond b c then some (valid, some 1)
          else if !isContinuation d then some (valid, some 2)
          else firstError (valid + 3) rest
      | some _, [c, d] =>
          if !allowedSecond b c then some (valid, some 1)
          else if !isContinuation d then some (valid, some 2)
          else some (valid, none)
      | some _, c :: d :: e :: rest =>
          if !allowedSecond b c then some (valid, some 1)
          else if !isContinuation d then some (valid, some 2)
          else if !isContinuation e then some (valid, some 3)
          else firstError (valid + 4) rest

/-- What is wrong with a byte list that is no string. -/
def describeError (bs : List UInt8) : String :=
  match firstError 0 bs with
  | some (valid, some n) =>
      "invalid utf-8 sequence of " ++ toString n ++ " bytes from index " ++ toString valid
  | some (valid, none) => "incomplete utf-8 byte sequence from index " ++ toString valid
  | none => ""

/-- The text of a byte list, with a replacement character for each defect. -/
def lossyFrom : (fuel : ℕ) → List UInt8 → String
  | 0, _ => ""
  | fuel + 1, bs =>
      match firstError 0 bs with
      | none => (decode bs).getD ""
      | some (valid, none) => (decode (bs.take valid)).getD "" ++ "\uFFFD"
      | some (valid, some n) =>
          (decode (bs.take valid)).getD "" ++ "\uFFFD" ++ lossyFrom fuel (bs.drop (valid + n))

/-- Each defect takes a byte at least. -/
def lossy (bs : List UInt8) : String := lossyFrom (bs.length + 1) bs

example : (lossy [0x68, 0x76, 0x63, 0x31], lossy [0x68, 0xFF, 0xE2, 0x82])
    = ("hvc1", "h\uFFFD\uFFFD") := by
  decide +kernel

lemma decode_encode (s : String) : decode (encode s) = some s := by
  have hbytes : (⟨(encode s).toArray⟩ : ByteArray) = s.toByteArray := rfl
  rw [decode, hbytes, String.fromUTF8?]
  rw [dif_pos s.isValidUTF8]
  rfl

/-- A decoded string has the bytes it was decoded from. -/
lemma encode_of_decode {bs : List UInt8} {s : String} (h : decode bs = some s) :
    encode s = bs := by
  rw [decode, String.fromUTF8?] at h
  split at h
  · cases h
    rfl
  · cases h

@[simp] lemma encode_empty : encode "" = [] := rfl

end Utf8
