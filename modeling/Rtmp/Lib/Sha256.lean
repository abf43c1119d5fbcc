import Rtmp.Lib.Bytes
import Rtmp.Lib.Window
import Mathlib.NumberTheory.PrimeCounting
import Mathlib.Data.Nat.NthRoot.Defs

/-!
SHA-256, for messages that are made of bytes, and keyed hashing.

* `Sha256.pad`: the message, one bit, zeros, and the length in 64 bits; `length_pad`, `zeros_least`: the
  zeros are just enough for whole blocks;
* `Sha256.unpad_pad`: the message is found in it again;
* `Sha256.constant`, `Sha256.initial`: the constants, from roots of the first primes;
* `Sha256.schedule`, `Sha256.round`, `Sha256.compress`: the compression of a block;
* `Sha256.hash`: the compression of all blocks, one after the other;
* `Mac.hmac`: the code of a text under a key, from a hash function and the length of its blocks.
-/

namespace Sha256

/-! ### Padding -/

/-- How many bytes of zeros follow the first byte of the padding. -/
def zeros (len : ℕ) : ℕ := (119 - len % 64) % 64

/-- The padded message. -/
def pad (m : List UInt8) : List UInt8 :=
  m ++ 0x80 :: List.replicate (zeros m.length) 0 ++ Bytes.toBe 8 (8 * m.length)

/-- The message of a padded one. -/
def unpad (p : List UInt8) : List UInt8 := p.take (Bytes.ofBe (p.drop (p.length - 8)) / 8)

/-- The zeros are as few as they can be. -/
lemma zeros_least (len : ℕ) :
    (len + 1 + zeros len) % 64 = 56 ∧ ∀ k < zeros len, (len + 1 + k) % 64 ≠ 56 := by
  rw [zeros]
  exact ⟨by omega, fun k hk => by omega⟩

lemma length_pad (m : List UInt8) : (pad m).length = m.length + 1 + zeros m.length + 8 := by
  simp only [pad, List.length_append, List.length_cons, List.length_replicate, Bytes.length_toBe]
  omega

/-- A padded message is made of whole blocks. -/
lemma dvd_length_pad (m : List UInt8) : 64 ∣ (pad m).length := by
  have hzeros := (zeros_least m.length).1
  rw [length_pad]
  omega

/-- **The message can be recovered**, if its length fits. -/
theorem unpad_pad {m : List UInt8} (h : m.length < 2 ^ 61) : unpad (pad m) = m := by
  have hdrop : (pad m).drop ((pad m).length - 8) = Bytes.toBe 8 (8 * m.length) := by
    rw [length_pad, pad, List.drop_left']
    simp only [List.length_append, List.length_cons, List.length_replicate]
    omega
  rw [unpad, hdrop, Bytes.ofBe_toBe (by omega), Nat.mul_div_cancel_left _ (by omega), pad,
    List.append_assoc, List.take_left]

/-! ### Words -/

abbrev Word := UInt32

/-- Rotation to the right. -/
def rotr (n x : Word) : Word := (x >>> n) ||| (x <<< (32 - n))

def ch (x y z : Word) : Word := (x &&& y) ^^^ (~~~x &&& z)

def maj (x y z : Word) : Word := (x &&& y) ^^^ (x &&& z) ^^^ (y &&& z)

def bigSigma0 (x : Word) : Word := rotr 2 x ^^^ rotr 13 x ^^^ rotr 22 x

def bigSigma1 (x : Word) : Word := rotr 6 x ^^^ rotr 11 x ^^^ rotr 25 x

def smallSigma0 (x : Word) : Word := rotr 7 x ^^^ rotr 18 x ^^^ (x >>> 3)

def smallSigma1 (x : Word) : Word := rotr 17 x ^^^ rotr 19 x ^^^ (x >>> 10)

/-- The first 32 bits of the fractional part of a root. -/
def rootBits (r a : ℕ) : Word := .ofNat (Nat.nthRoot r (a * 2 ^ (32 * r)))

/-- The first numbers with a property, from a list of those below a bound. -/
lemma nth_of_getElem? {p : ℕ → Prop} [DecidablePred p] {n t x : ℕ}
    (h : ((List.range n).filter fun m => p m)[t]? = some x) : Nat.nth p t = x := by
  induction n with
  | zero => cases h
  | succ n ih =>
      have hcount : Nat.count p n = ((List.range n).filter fun m => p m).length :=
        List.countP_eq_length_filter
      rw [List.range_succ, List.filter_append, List.getElem?_append] at h
      split_ifs at h with hlt
      · exact ih h
      · by_cases hn : p n
        · have hlast : ([n].filter fun m => p m) = [n] := by simp [hn]
          rw [hlast, List.getElem?_singleton] at h
          split_ifs at h with hzero
          obtain rfl : t = Nat.count p n := by omega
          rw [Nat.nth_count hn, Option.some.inj h]
        · have hlast : ([n].filter fun m => p m) = [] := by simp [hn]
          rw [hlast] at h
          cases h

/-- A number is prime if none of those below its root divides it. -/
lemma prime_iff_of_lt {n b : ℕ} (h : n < b * b) :
    n.Prime ↔ 2 ≤ n ∧ ∀ m < b, 2 ≤ m → m < n → n % m ≠ 0 := by
  constructor
  · intro hn
    refine ⟨hn.two_le, fun m _ hm hlt hmod => ?_⟩
    rcases (Nat.dvd_prime hn).mp (Nat.dvd_of_mod_eq_zero hmod) with rfl | rfl
    · omega
    · exact lt_irrefl _ hlt
  · rintro ⟨hn, hnone⟩
    by_contra hnot
    have hsq : n.minFac * n.minFac ≤ n := by
      rw [← sq]
      exact Nat.minFac_sq_le_self (by omega) hnot
    have hfac : 2 ≤ n.minFac := (Nat.minFac_prime (by omega)).two_le
    have hlt : n.minFac < n := by nlinarith
    have hb : n.minFac < b := by
      by_contra hle
      have hbb : b * b ≤ n.minFac * n.minFac := Nat.mul_le_mul (Nat.not_lt.mp hle) (Nat.not_lt.mp hle)
      omega
    exact hnone n.minFac hb hfac hlt (Nat.mod_eq_zero_of_dvd n.minFac_dvd)

/-- The constant of a round: from the cube roots of the first primes. -/
noncomputable def constant (t : ℕ) : Word := rootBits 3 (Nat.nth Nat.Prime t)

/-! ### Compression -/

/-- The eight words that are computed with. -/
@[ext]
structure State where
  a : Word
  b : Word
  c : Word
  d : Word
  e : Word
  f : Word
  g : Word
  h : Word
  deriving DecidableEq, Repr

namespace State

def words (s : State) : List Word := [s.a, s.b, s.c, s.d, s.e, s.f, s.g, s.h]

def add (s t : State) : State :=
  ⟨s.a + t.a, s.b + t.b, s.c + t.c, s.d + t.d, s.e + t.e, s.f + t.f, s.g + t.g, s.h + t.h⟩

end State

/-- What hashing starts with: from the square roots of the first primes. -/
noncomputable def initial : State :=
  let root t := rootBits 2 (Nat.nth Nat.Prime t)
  ⟨root 0, root 1, root 2, root 3, root 4, root 5, root 6, root 7⟩

abbrev Block := List.Vector UInt8 64

/-- The words of a block. -/
def Block.word (block : Block) (t : ℕ) : Word := .ofNat (Bytes.ofBe (Window.get (4 * t) 4 block.toList))

/-- The words that are mixed in, made of those of the block. -/
def schedule (block : Block) (t : ℕ) : Word :=
  if t < 16 then block.word t
  else smallSigma1 (schedule block (t - 2)) + schedule block (t - 7)
    + smallSigma0 (schedule block (t - 15)) + schedule block (t - 16)

lemma schedule_of_lt {block : Block} {t : ℕ} (h : t < 16) : schedule block t = block.word t := by
  rw [schedule, if_pos h]

lemma schedule_of_le {block : Block} {t : ℕ} (h : 16 ≤ t) :
    schedule block t = smallSigma1 (schedule block (t - 2)) + schedule block (t - 7)
      + smallSigma0 (schedule block (t - 15)) + schedule block (t - 16) := by
  rw [schedule, if_neg (Nat.not_lt.mpr h)]

/-- One round, with its constant and its word. -/
def round (k w : Word) (s : State) : State :=
  let t1 := s.h + bigSigma1 s.e + ch s.e s.f s.g + k + w
  let t2 := bigSigma0 s.a + maj s.a s.b s.c
  ⟨t1 + t2, s.a, s.b, s.c, s.d + t1, s.e, s.f, s.g⟩

/-- The rounds of a block, and what they started with is added. -/
noncomputable def compress (s : State) (block : Block) : State :=
  s.add (Fin.foldl 64 (fun s t => round (constant t) (schedule block t) s) s)

/-- The bytes of the words. -/
def State.digest (s : State) : List UInt8 := s.words.flatMap fun w => Bytes.toBe 4 w.toNat

/-- **SHA-256**: the padded message, compressed block by block. -/
noncomputable def hash (m : List UInt8) : List UInt8 :=
  ((Window.blocks 64 (pad m)).foldl compress initial).digest

end Sha256

/-! ### Keyed hashing -/

namespace Mac

variable (H : List UInt8 → List UInt8) (B : ℕ)

/-- The key with zeros up to a block; one that is longer is hashed first. -/
def blockKey (key : List UInt8) : List UInt8 :=
  let k := if B < key.length then H key else key
  k ++ List.replicate (B - k.length) 0

/-- A block of one byte, added to the key. -/
def mask (byte : UInt8) (key : List UInt8) : List UInt8 :=
  List.zipWith (· ^^^ ·) (blockKey H B key) (List.replicate B byte)

/-- **HMAC**: the text is hashed behind the key, and this behind the key again. -/
def hmac (key text : List UInt8) : List UInt8 :=
  H (mask H B 0x5c key ++ H (mask H B 0x36 key ++ text))

/-- A key as long as a block is used as it is. -/
lemma blockKey_of_length {key : List UInt8} (h : key.length = B) : blockKey H B key = key := by
  simp [blockKey, h]

/-- A longer one is replaced by its hash. -/
lemma blockKey_of_lt {key : List UInt8} (h : B < key.length) :
    blockKey H B key = H key ++ List.replicate (B - (H key).length) 0 := by
  simp [blockKey, h]

/-- A key is brought to the length of a block, when hashes are no longer than that. -/
lemma length_blockKey {key : List UInt8} (hH : (H key).length ≤ B) : (blockKey H B key).length = B := by
  simp only [blockKey, List.length_append, List.length_replicate]
  split_ifs with h
  · omega
  · omega

/-- The byte is added to each byte of the key. -/
lemma mask_eq_map {key : List UInt8} (byte : UInt8) (hH : (H key).length ≤ B) :
    mask H B byte key = (blockKey H B key).map fun b => b ^^^ byte := by
  have hzip : ∀ l : List UInt8, List.zipWith (· ^^^ ·) l (List.replicate l.length byte)
      = l.map fun b => b ^^^ byte := by
    intro l
    induction l with
    | nil => rfl
    | cons b l ih => rw [List.length_cons, List.replicate_succ, List.zipWith_cons_cons, ih,
        List.map_cons]
  have hkey := hzip (blockKey H B key)
  rwa [length_blockKey H B hH] at hkey

lemma length_mask {key : List UInt8} (byte : UInt8) (hH : (H key).length ≤ B) :
    (mask H B byte key).length = B := by
  rw [mask_eq_map H B byte hH, List.length_map, length_blockKey H B hH]

variable {H B} {H' : List UInt8 → List UInt8} {key text : List UInt8}

lemma mask_congr (hkey : H key = H' key) (byte : UInt8) : mask H B byte key = mask H' B byte key := by
  rw [mask, mask, blockKey, blockKey, hkey]

/-- Hash functions that agree on what is hashed give the same code. -/
lemma hmac_congr (hkey : H key = H' key)
    (hinner : H (mask H B 0x36 key ++ text) = H' (mask H B 0x36 key ++ text))
    (houter : H (mask H B 0x5c key ++ H' (mask H B 0x36 key ++ text))
      = H' (mask H B 0x5c key ++ H' (mask H B 0x36 key ++ text))) :
    hmac H B key text = hmac H' B key text := by
  rw [hmac, hmac, hinner, houter, mask_congr hkey, mask_congr hkey]

end Mac
