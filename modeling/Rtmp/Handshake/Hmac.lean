import Rtmp.Lib.Sha256

/-!
The hash that the handshake uses.

* `padMessage`: the padding loop; `padMessage_eq` says that it pads as the standard does;
* `loadWords`, `extendWords`: the message schedule, an array that is used again for every block;
  `schedule_spec`: whatever is in it from the block before, it ends up with that of the block;
* `Working.round`, `compressChunk`: the compression of a block, `toState_compressChunk`;
* `sha256`, `hmacSha256`: the hash, and the code of a message under a key;
* `K_eq`, `H0_eq`: the tables hold the constants of the standard;
* `sha256_eq`, `hmacSha256_eq`: the two functions are those of the standards;
* **`hash_standard`**: all of this for every message and every key.
-/

namespace Rtmp.Hmac

open Sha256 (State Block)

def sha256Len : ℕ := 32

/-- The length of a block, also that of a key. -/
def blockLen : ℕ := 64

def K : Vector UInt32 64 := #v[
  0x428a2f98, 0x71374491, 0xb5c0fbcf, 0xe9b5dba5, 0x3956c25b, 0x59f111f1, 0x923f82a4, 0xab1c5ed5,
  0xd807aa98, 0x12835b01, 0x243185be, 0x550c7dc3, 0x72be5d74, 0x80deb1fe, 0x9bdc06a7, 0xc19bf174,
  0xe49b69c1, 0xefbe4786, 0x0fc19dc6, 0x240ca1cc, 0x2de92c6f, 0x4a7484aa, 0x5cb0a9dc, 0x76f988da,
  0x983e5152, 0xa831c66d, 0xb00327c8, 0xbf597fc7, 0xc6e00bf3, 0xd5a79147, 0x06ca6351, 0x14292967,
  0x27b70a85, 0x2e1b2138, 0x4d2c6dfc, 0x53380d13, 0x650a7354, 0x766a0abb, 0x81c2c92e, 0x92722c85,
  0xa2bfe8a1, 0xa81a664b, 0xc24b8b70, 0xc76c51a3, 0xd192e819, 0xd6990624, 0xf40e3585, 0x106aa070,
  0x19a4c116, 0x1e376c08, 0x2748774c, 0x34b0bcb5, 0x391c0cb3, 0x4ed8aa4a, 0x5b9cca4f, 0x682e6ff3,
  0x748f82ee, 0x78a5636f, 0x84c87814, 0x8cc70208, 0x90befffa, 0xa4506ceb, 0xbef9a3f7, 0xc67178f2]

def H0 : Vector UInt32 8 := #v[
  0x6a09e667, 0xbb67ae85, 0x3c6ef372, 0xa54ff53a, 0x510e527f, 0x9b05688c, 0x1f83d9ab, 0x5be0cd19]

/-! ### Padding -/

/-- The loop that pushes zeros until the length fits. -/
def padLoop (msg : List UInt8) : List UInt8 :=
  if msg.length % blockLen ≠ 56 then padLoop (msg ++ [0]) else msg
termination_by (120 - msg.length % 64) % 64
decreasing_by
  rename_i h
  rw [blockLen] at h
  rw [List.length_append, List.length_singleton]
  omega

/-- The message with its padding. -/
def padMessage (data : List UInt8) : List UInt8 :=
  let bitLen : UInt64 := .ofNat data.length * 8
  padLoop (data ++ [0x80]) ++ Bytes.toBe 8 bitLen.toNat

/-! ### The message schedule -/

def rotateRight (x : UInt32) (n : ℕ) : UInt32 := ⟨x.toBitVec.rotateRight n⟩

/-- The first sixteen words are those of the block. -/
def loadWords (chunk : Block) (w : Vector UInt32 64) : Vector UInt32 64 :=
  Window.fill 0 16 (by decide)
    (fun i _ => .ofNat (Bytes.ofBe (Window.get (4 * i) 4 chunk.toList))) w

/-- The others are made of the words before. -/
def extendWords (w : Vector UInt32 64) : Vector UInt32 64 :=
  Window.fill 16 48 (by decide)
    (fun j w =>
      let s0 := rotateRight w[16 + j.val - 15] 7 ^^^ rotateRight w[16 + j.val - 15] 18
        ^^^ (w[16 + j.val - 15] >>> 3)
      let s1 := rotateRight w[16 + j.val - 2] 17 ^^^ rotateRight w[16 + j.val - 2] 19
        ^^^ (w[16 + j.val - 2] >>> 10)
      w[16 + j.val - 16] + s0 + w[16 + j.val - 7] + s1) w

/-! ### Compression -/

/-- The working variables. -/
structure Working where
  a : UInt32
  b : UInt32
  c : UInt32
  d : UInt32
  e : UInt32
  f : UInt32
  g : UInt32
  hh : UInt32

namespace Working

def ofHash (h : Vector UInt32 8) : Working := ⟨h[0], h[1], h[2], h[3], h[4], h[5], h[6], h[7]⟩

/-- One round, with its constant and its word. -/
def round (k w : UInt32) (v : Working) : Working :=
  let bigS1 := rotateRight v.e 6 ^^^ rotateRight v.e 11 ^^^ rotateRight v.e 25
  let ch := (v.e &&& v.f) ^^^ (~~~v.e &&& v.g)
  let t1 := v.hh + bigS1 + ch + k + w
  let bigS0 := rotateRight v.a 2 ^^^ rotateRight v.a 13 ^^^ rotateRight v.a 22
  let maj := (v.a &&& v.b) ^^^ (v.a &&& v.c) ^^^ (v.b &&& v.c)
  let t2 := bigS0 + maj
  { hh := v.g, g := v.f, f := v.e, e := v.d + t1, d := v.c, c := v.b, b := v.a, a := t1 + t2 }

end Working

/-- The hash and the schedule after one more block. -/
def compressChunk (s : Vector UInt32 8 × Vector UInt32 64) (chunk : Block) :
    Vector UInt32 8 × Vector UInt32 64 :=
  let (h, w) := s
  let w := extendWords (loadWords chunk w)
  let v := Fin.foldl 64 (fun v i => Working.round K[i] w[i] v) (.ofHash h)
  (#v[h[0] + v.a, h[1] + v.b, h[2] + v.c, h[3] + v.d, h[4] + v.e, h[5] + v.f, h[6] + v.g, h[7] + v.hh],
    w)

/-- The words of the hash, each written to its place. -/
def output (h : Vector UInt32 8) : List UInt8 :=
  Fin.foldl 8 (fun out i => Window.put (i * 4) (Bytes.toBe 4 h[i].toNat) out)
    (List.replicate sha256Len 0)

/-- The hash of `data`. -/
def sha256 (data : List UInt8) : List UInt8 :=
  let (h, _) := (Window.blocks blockLen (padMessage data)).foldl compressChunk
    (H0, Vector.replicate 64 0)
  output h

/-- The code of a message under a key. -/
def hmacSha256 (key message : List UInt8) : List UInt8 :=
  let zeros := List.replicate blockLen 0
  let block := if key.length > blockLen then Window.put 0 (sha256 key) zeros else Window.put 0 key zeros
  let inner := block.map (fun b => b ^^^ 0x36) ++ message
  let outer := block.map (fun b => b ^^^ 0x5c) ++ sha256 inner
  sha256 outer

/-! ### The padding is the standard one -/

/-- The loop pushes as many zeros as are missing. -/
lemma padLoop_eq (msg : List UInt8) :
    padLoop msg = msg ++ List.replicate ((120 - msg.length % 64) % 64) 0 := by
  induction msg using padLoop.induct with
  | case1 msg h ih =>
      have hcount : (120 - msg.length % 64) % 64 = (120 - (msg.length + 1) % 64) % 64 + 1 := by
        rw [blockLen] at h
        omega
      rw [padLoop, if_pos h, ih, List.length_append, List.length_singleton, hcount,
        List.replicate_succ, List.append_assoc]
      rfl
  | case2 msg h =>
      rw [blockLen, not_not] at h
      rw [padLoop, blockLen, if_neg (not_not.mpr h), h]
      exact (List.append_nil msg).symm

/-- **The padding** is the standard one, while the number of bits fits. -/
theorem padMessage_eq {data : List UInt8} (h : data.length < 2 ^ 61) :
    padMessage data = Sha256.pad data := by
  have hbits : (UInt64.ofNat data.length * 8).toNat = 8 * data.length := by
    rw [UInt64.toNat_mul, UInt64.toNat_ofNat', show (8 : UInt64).toNat = 8 from rfl]
    omega
  have hcount : (120 - (data.length + 1) % 64) % 64 = Sha256.zeros data.length := by
    rw [Sha256.zeros]
    omega
  rw [padMessage, Sha256.pad]
  simp only [hbits, padLoop_eq, List.length_append, List.length_singleton, hcount, List.append_assoc]
  rfl

/-! ### The compression is the standard one -/

/-- **The schedule** of a block does not depend on what was in the array. -/
theorem schedule_spec (chunk : Block) (w : Vector UInt32 64) :
    ∀ t (_ : t < 64), (extendWords (loadWords chunk w))[t] = Sha256.schedule chunk t := by
  have hload : ∀ t (_ : t < 0 + 16), (loadWords chunk w)[t] = Sha256.schedule chunk t := by
    refine Window.fill_spec (m := 64) (k := 16) (by decide) nofun fun i w' _ => ?_
    rw [Nat.zero_add, Sha256.schedule_of_lt i.isLt]
    rfl
  refine Window.fill_spec (m := 64) (k := 48) (by decide) hload fun i w' hw => ?_
  rw [Sha256.schedule_of_le (Nat.le_add_right 16 i), hw (16 + i - 15) (by omega),
    hw (16 + i - 2) (by omega),
    hw (16 + i - 16) (by omega), hw (16 + i - 7) (by omega)]
  calc Sha256.schedule chunk (16 + i - 16) + Sha256.smallSigma0 (Sha256.schedule chunk (16 + i - 15))
        + Sha256.schedule chunk (16 + i - 7) + Sha256.smallSigma1 (Sha256.schedule chunk (16 + i - 2))
      = Sha256.smallSigma1 (Sha256.schedule chunk (16 + i - 2)) + Sha256.schedule chunk (16 + i - 7)
        + Sha256.smallSigma0 (Sha256.schedule chunk (16 + i - 15)) + Sha256.schedule chunk
        (16 + i - 16) := by
        ac_rfl

/-- The working variables as the state of the standard. -/
def Working.toState (v : Working) : State := ⟨v.a, v.b, v.c, v.d, v.e, v.f, v.g, v.hh⟩

/-- The hash as the state of the standard. -/
def toState (h : Vector UInt32 8) : State := (Working.ofHash h).toState

lemma Working.toState_round (k w : UInt32) (v : Working) :
    (v.round k w).toState = Sha256.round k w v.toState := rfl

/-- The rounds of both run alike, with the same constants and the same words. -/
lemma toState_rounds {n : ℕ} {k w k' w' : Fin n → UInt32} (hk : ∀ i, k i = k' i) (hw : ∀ i, w i = w' i)
    (v : Working) : (Fin.foldl n (fun v i => Working.round (k i) (w i) v) v).toState
      = Fin.foldl n (fun s i => Sha256.round (k' i) (w' i) s) v.toState := by
  induction n with
  | zero => rfl
  | succ n ih =>
      rw [Fin.foldl_succ_last, Fin.foldl_succ_last, Working.toState_round, hk, hw,
        ih (fun i => hk i.castSucc) fun i => hw i.castSucc]

/-- The first primes. -/
def primes : Vector ℕ 64 := #v[
  2, 3, 5, 7, 11, 13, 17, 19, 23, 29, 31, 37, 41, 43, 47, 53, 59, 61, 67, 71, 73, 79, 83, 89, 97, 101,
  103, 107, 109, 113, 127, 131, 137, 139, 149, 151, 157, 163, 167, 173, 179, 181, 191, 193, 197, 199,
  211, 223, 227, 229, 233, 239, 241, 251, 257, 263, 269, 271, 277, 281, 283, 293, 307, 311]

lemma nth_prime (t : Fin 64) : Nat.nth Nat.Prime t = primes[t] := by
  have hlist : ((List.range 312).filter fun n => n.Prime) = primes.toList := by
    have htest : ((List.range 312).filter fun n => 2 ≤ n ∧ ∀ m < 18, 2 ≤ m → m < n → n % m ≠ 0)
        = primes.toList := by decide +kernel
    rw [← htest]
    refine List.filter_congr fun n hn => decide_eq_decide.mpr (Sha256.prime_iff_of_lt ?_)
    rw [List.mem_range] at hn
    omega
  refine Sha256.nth_of_getElem? (n := 312) ?_
  rw [hlist, Vector.getElem?_toList]
  exact Vector.getElem?_eq_getElem t.isLt

/-- **The table of constants** holds those of the standard. -/
theorem K_eq (t : Fin 64) : K[t] = Sha256.constant t := by
  have htable : ∀ t : Fin 64, K[t] = Sha256.rootBits 3 (primes[t]) := by decide +kernel
  rw [Sha256.constant, nth_prime, htable]

/-- **The initial hash** is that of the standard. -/
theorem H0_eq : toState H0 = Sha256.initial := by
  have htable : ∀ t : Fin 8, H0[t] = Sha256.rootBits 2 primes[t] := by decide +kernel
  have hword : ∀ t : Fin 8, H0[t] = Sha256.rootBits 2 (Nat.nth Nat.Prime t) := fun t => by
    rw [htable t]
    exact congrArg (Sha256.rootBits 2) (nth_prime (t.castLE (by decide))).symm
  rw [Sha256.initial]
  exact State.ext (hword 0) (hword 1) (hword 2) (hword 3) (hword 4) (hword 5) (hword 6) (hword 7)

/-- **A block** is compressed as the standard says, whatever the schedule held. -/
theorem toState_compressChunk (h : Vector UInt32 8) (w : Vector UInt32 64) (chunk : Block) :
    toState (compressChunk (h, w) chunk).1 = Sha256.compress (toState h) chunk := by
  have hrounds := toState_rounds (k := fun i : Fin 64 => K[i]) K_eq
    (fun i => schedule_spec chunk w i i.isLt) (.ofHash h)
  rw [Sha256.compress]
  exact congrArg (toState h).add hrounds

/-- All blocks, one after the other. -/
lemma toState_foldl (blocks : List Block) (s : Vector UInt32 8 × Vector UInt32 64) :
    toState (blocks.foldl compressChunk s).1 = blocks.foldl Sha256.compress (toState s.1) := by
  induction blocks generalizing s with
  | nil => rfl
  | cons chunk blocks ih =>
      rw [List.foldl_cons, List.foldl_cons, ih, ← toState_compressChunk s.1 s.2]

/-- The words are written one behind the other. -/
lemma output_eq (h : Vector UInt32 8) : output h = (toState h).digest := by
  rw [output, Window.foldl_put (n := 4) (fun i => Bytes.toBe 4 h[i].toNat) fun _ =>
    Bytes.length_toBe _ _]
  · rfl
  · rw [List.length_replicate, sha256Len]

/-- **The hash** is the standard one, while the number of bits fits. -/
theorem sha256_eq {data : List UInt8} (h : data.length < 2 ^ 61) : sha256 data = Sha256.hash data := by
  rw [sha256, Sha256.hash, padMessage_eq h, ← H0_eq]
  exact (output_eq _).trans (congrArg State.digest (toState_foldl _ _))

lemma length_sha256 (data : List UInt8) : (sha256 data).length = sha256Len := by
  have hput : ∀ h : Vector UInt32 8, (output h).length = sha256Len := by
    intro h
    rw [output_eq, State.digest, List.length_flatMap]
    rfl
  exact hput _

lemma length_sha256_le (data : List UInt8) : (sha256 data).length ≤ blockLen := by
  rw [length_sha256]
  decide

/-! ### The code of a message is the standard one -/

/-- **HMAC** is that of the standard over the hash, for all keys and messages. -/
theorem hmacSha256_eq (key message : List UInt8) :
    hmacSha256 key message = Mac.hmac sha256 blockLen key message := by
  have hshort := length_sha256_le key
  -- what is copied over zeros has zeros behind it
  have hput : ∀ k : List UInt8, Window.put 0 k (List.replicate blockLen 0)
      = k ++ List.replicate (blockLen - k.length) 0 := by
    intro k
    rw [Window.put, List.take_zero, List.nil_append, Nat.zero_add, List.drop_replicate]
  have hblock : (if key.length > blockLen then Window.put 0 (sha256 key) (List.replicate blockLen 0)
      else Window.put 0 key (List.replicate blockLen 0)) = Mac.blockKey sha256 blockLen key := by
    rw [Mac.blockKey]
    split_ifs
    · exact hput _
    · exact hput _
  rw [hmacSha256, Mac.hmac, Mac.mask_eq_map sha256 blockLen 0x36 hshort,
    Mac.mask_eq_map sha256 blockLen 0x5c hshort, hblock]

/-- Where the hash is the standard one, the code is as well. -/
lemma hmacSha256_eq_hash {key message : List UInt8} (hkey : key.length < 2 ^ 61)
    (hmessage : blockLen + message.length < 2 ^ 61) :
    hmacSha256 key message = Mac.hmac Sha256.hash blockLen key message := by
  have hshort := length_sha256_le key
  have hinner : (Mac.mask sha256 blockLen 0x36 key ++ message).length < 2 ^ 61 := by
    rw [List.length_append, Mac.length_mask sha256 blockLen 0x36 hshort]
    exact hmessage
  rw [hmacSha256_eq]
  refine Mac.hmac_congr (sha256_eq hkey) (sha256_eq hinner) (sha256_eq ?_)
  rw [← sha256_eq hinner, List.length_append, Mac.length_mask sha256 blockLen 0x5c hshort,
    length_sha256]
  decide

/-- **The hash of the handshake**: the padding ends in whole blocks, all of which are hashed; the
message can be recovered from it; the hash is that of the standard, as long as the length of the
message in bits fits 64 bits; the code of a message under a key is that of the standard over this
hash, whatever their lengths, where a key of 64 bytes is used as it is and a longer one replaced by
its hash; and it is that over the standard hash, where the two hashes are the same. -/
theorem hash_standard :
    (∀ data : List UInt8, data.length < 2 ^ 61 →
      blockLen ∣ (padMessage data).length ∧
      (Window.blocks blockLen (padMessage data)).flatMap List.Vector.toList = padMessage data ∧
      padMessage data = Sha256.pad data ∧ Sha256.unpad (padMessage data) = data ∧
      sha256 data = Sha256.hash data) ∧
    (∀ key message : List UInt8, hmacSha256 key message = Mac.hmac sha256 blockLen key message) ∧
    (∀ key : List UInt8, key.length = blockLen → Mac.blockKey sha256 blockLen key = key) ∧
    (∀ key : List UInt8, blockLen < key.length →
      Mac.blockKey sha256 blockLen key = sha256 key ++ List.replicate (blockLen - sha256Len) 0) ∧
    ∀ key message : List UInt8, key.length < 2 ^ 61 → blockLen + message.length < 2 ^ 61 →
      hmacSha256 key message = Mac.hmac Sha256.hash blockLen key message := by
  refine ⟨fun data h => ?_, hmacSha256_eq, fun _ => Mac.blockKey_of_length _ _, fun key h => ?_,
    fun _ _ => hmacSha256_eq_hash⟩
  swap
  · rw [Mac.blockKey_of_lt sha256 blockLen h, length_sha256]
  have hpad := padMessage_eq h
  have hdvd : blockLen ∣ (padMessage data).length := hpad ▸ Sha256.dvd_length_pad data
  exact ⟨hdvd, Window.flatMap_blocks hdvd, hpad, by rw [hpad, Sha256.unpad_pad h], sha256_eq h⟩

/-- The hash of three bytes, keys of 64 and of 65 bytes, and the code of one byte. -/
theorem hash_standard_abc :
    Sha256.hash [0x61, 0x62, 0x63] = [0xba, 0x78, 0x16, 0xbf, 0x8f, 0x01, 0xcf, 0xea, 0x41, 0x41, 0x40,
      0xde, 0x5d, 0xae, 0x22, 0x23, 0xb0, 0x03, 0x61, 0xa3, 0x96, 0x17, 0x7a, 0x9c, 0xb4, 0x10, 0xff,
      0x61, 0xf2, 0x00, 0x15, 0xad] ∧
    Mac.blockKey sha256 blockLen (List.replicate 64 1) = List.replicate 64 1 ∧
    Mac.blockKey sha256 blockLen (List.replicate 65 1)
      = sha256 (List.replicate 65 1) ++ List.replicate (blockLen - sha256Len) 0 ∧
    hmacSha256 [0x4b] [0x61] = Mac.hmac Sha256.hash blockLen [0x4b] [0x61] := by
  obtain ⟨hhash, -, hblock, hlong, hcode⟩ := hash_standard
  obtain ⟨-, -, -, -, habc⟩ := hhash [0x61, 0x62, 0x63] (by decide)
  refine ⟨?_, hblock _ List.length_replicate, hlong _ ?_, hcode _ _ (by decide) (by decide)⟩
  · rw [← habc]
    decide +kernel
  · rw [List.length_replicate]
    decide

end Rtmp.Hmac
