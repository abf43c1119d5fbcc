import Rtmp.Lib.Window

/-!
Digests in handshake packets.

A packet is a header of eight bytes and two blocks; where in its block the digest stands is said by four
bytes of the block itself.  The message authentication code is a parameter.

* `Packet`, `Digest`, `DigestScheme`: what is exchanged, and which block comes first;
* `digestOffset`, `keyOffset`: where the digest and the key stand;
* `installDigest`, `verifyDigest`, `findDigest`: a digest over the rest of its packet;
* `installResponseDigest`, `verifyResponseDigest`: a digest at the end of a packet, chained from one of
  the peer's;
* `Inside`, `digest_inside`, `key_inside`: both lie in their blocks and keep off the offset bytes, for
  all sums;
* **`digest_self_consistent`**: what is installed is verified, and nothing else changes.
-/

namespace Rtmp.Handshake

def handshakePayloadLen : ℕ := 1536

def handshakeDigestLen : ℕ := 32

def handshakeDhKeyLen : ℕ := 128

def blockLen : ℕ := 764

def digestOffsetMod : ℕ := 728

def keyOffsetMod : ℕ := 632

abbrev Packet := List.Vector UInt8 handshakePayloadLen

abbrev Digest := List.Vector UInt8 handshakeDigestLen

/-- Which of the two blocks comes first: in the first scheme that of the key, in the other that of the
digest. -/
inductive DigestScheme where
  | schema0
  | schema1
  deriving DecidableEq, Repr

namespace DigestScheme

def digestBlockStart : DigestScheme → ℕ
  | schema0 => 8 + blockLen
  | schema1 => 8

def keyBlockStart : DigestScheme → ℕ
  | schema0 => 8
  | schema1 => 8 + blockLen

end DigestScheme

/-- The sum of four bytes from `pos` on. -/
def byteSum (packet : Packet) (pos : ℕ) : ℕ :=
  ((Window.get pos 4 packet.toList).map UInt8.toNat).sum

/-- The digest stands behind the offset bytes of its block, which are the first four. -/
def digestOffset (packet : Packet) (scheme : DigestScheme) : ℕ :=
  scheme.digestBlockStart + 4 + byteSum packet scheme.digestBlockStart % digestOffsetMod

/-- The key stands in front of the offset bytes of its block, which are the last four. -/
def keyOffset (packet : Packet) (scheme : DigestScheme) : ℕ :=
  scheme.keyBlockStart + byteSum packet (scheme.keyBlockStart + blockLen - 4) % keyOffsetMod

/-- The packet without its digest. -/
def digestMessage (packet : Packet) (pos : ℕ) : List UInt8 :=
  Window.cut pos handshakeDigestLen packet.toList

/-! ### Where the slots lie -/

/-- A slot of `n` bytes at `pos` in the block at `start`, off its four bytes at `offsets`. -/
structure Inside (start offsets pos n : ℕ) : Prop where
  le : start ≤ pos
  end_le : pos + n ≤ start + blockLen
  packet : start + blockLen ≤ handshakePayloadLen
  off : offsets + 4 ≤ pos ∨ pos + n ≤ offsets

section Slots

variable (packet : Packet) (scheme : DigestScheme)

lemma blocks_disjoint : scheme.digestBlockStart + blockLen ≤ scheme.keyBlockStart ∨
    scheme.keyBlockStart + blockLen ≤ scheme.digestBlockStart := by
  cases scheme <;> simp [DigestScheme.digestBlockStart, DigestScheme.keyBlockStart, blockLen]

lemma digest_inside : Inside scheme.digestBlockStart scheme.digestBlockStart
    (digestOffset packet scheme) handshakeDigestLen := by
  have hmod : byteSum packet scheme.digestBlockStart % digestOffsetMod < 728 :=
    Nat.mod_lt _ (by simp [digestOffsetMod])
  have hstart : scheme.digestBlockStart + blockLen ≤ handshakePayloadLen := by
    cases scheme <;> simp [DigestScheme.digestBlockStart, blockLen, handshakePayloadLen]
  refine ⟨?_, ?_, hstart, .inl ?_⟩ <;>
    simp only [digestOffset, handshakeDigestLen, blockLen] <;> omega

lemma key_inside : Inside scheme.keyBlockStart (scheme.keyBlockStart + blockLen - 4)
    (keyOffset packet scheme) handshakeDhKeyLen := by
  have hmod : byteSum packet (scheme.keyBlockStart + blockLen - 4) % keyOffsetMod < 632 :=
    Nat.mod_lt _ (by simp [keyOffsetMod])
  have hstart : scheme.keyBlockStart + blockLen ≤ handshakePayloadLen := by
    cases scheme <;> simp [DigestScheme.keyBlockStart, blockLen, handshakePayloadLen]
  refine ⟨?_, ?_, hstart, .inr ?_⟩ <;>
    simp only [keyOffset, handshakeDhKeyLen, blockLen] at hmod ⊢ <;> omega

lemma digestOffset_add_le : digestOffset packet scheme + handshakeDigestLen ≤ handshakePayloadLen :=
  (digest_inside packet scheme).end_le.trans (digest_inside packet scheme).packet

end Slots

/-! ### Digests -/

/-- The packet with a digest at `pos`. -/
def Packet.put (packet : Packet) (pos : ℕ) (digest : Digest)
    (h : pos + handshakeDigestLen ≤ handshakePayloadLen) : Packet :=
  ⟨Window.put pos digest.toList packet.toList, by
    rw [Window.length_put (by rwa [digest.toList_length, packet.toList_length]), packet.toList_length]⟩

section Mac

variable (hmacSha256 : (key message : List UInt8) → Digest)

/-- The packet with its digest, and the digest. -/
def installDigest (packet : Packet) (scheme : DigestScheme) (key : List UInt8) : Packet × Digest :=
  let pos := digestOffset packet scheme
  let digest := hmacSha256 key (digestMessage packet pos)
  (packet.put pos digest (digestOffset_add_le packet scheme), digest)

/-- The digest of a packet, if it is the one its message has. -/
def verifyDigest (packet : Packet) (scheme : DigestScheme) (key : List UInt8) : Option Digest :=
  let pos := digestOffset packet scheme
  let expect := hmacSha256 key (digestMessage packet pos)
  if Window.get pos handshakeDigestLen packet.toList = expect.toList then some expect else none

/-- The first scheme under which the packet has its digest. -/
def findDigest (packet : Packet) (key : List UInt8) : Option (DigestScheme × Digest) :=
  match verifyDigest hmacSha256 packet .schema0 key with
  | some d => some (.schema0, d)
  | none => (verifyDigest hmacSha256 packet .schema1 key).map (DigestScheme.schema1, ·)

/-- Where the digest of a response stands: at its end. -/
def responseTail : ℕ := handshakePayloadLen - handshakeDigestLen

lemma responseTail_add_le : responseTail + handshakeDigestLen ≤ handshakePayloadLen := by decide

/-- The digest of a response, under a key chained from the digest of the peer. -/
def responseDigest (packet : Packet) (peerDigest : Digest) (fullKey : List UInt8) : Digest :=
  hmacSha256 (hmacSha256 fullKey peerDigest.toList).toList (packet.toList.take responseTail)

def installResponseDigest (packet : Packet) (peerDigest : Digest) (fullKey : List UInt8) : Packet :=
  packet.put responseTail (responseDigest hmacSha256 packet peerDigest fullKey) responseTail_add_le

def verifyResponseDigest (packet : Packet) (ownDigest : Digest) (fullKey : List UInt8) : Bool :=
  packet.toList.drop responseTail = (responseDigest hmacSha256 packet ownDigest fullKey).toList

/-! ### What is installed is verified -/

section Put

variable {packet : Packet} {pos i n : ℕ} {digest : Digest}
  {h : pos + handshakeDigestLen ≤ handshakePayloadLen}

lemma toList_put : (packet.put pos digest h).toList = Window.put pos digest.toList packet.toList := rfl

/-- Only the slot changes. -/
lemma getElem?_put (hi : i < pos ∨ pos + handshakeDigestLen ≤ i) :
    (packet.put pos digest h).toList[i]? = packet.toList[i]? :=
  Window.getElem?_put (by rwa [digest.toList_length, packet.toList_length])
    (by rwa [digest.toList_length])

lemma get_put : Window.get pos handshakeDigestLen (packet.put pos digest h).toList = digest.toList := by
  have hlen := digest.toList_length
  conv_lhs => rw [← hlen]
  exact Window.get_put (by rw [packet.toList_length]; omega)

lemma digestMessage_put : digestMessage (packet.put pos digest h) pos = digestMessage packet pos := by
  have hlen := digest.toList_length
  rw [digestMessage, digestMessage, ← hlen]
  exact Window.cut_put (by rw [packet.toList_length]; omega)

lemma byteSum_put (hi : i + 4 ≤ pos ∨ pos + handshakeDigestLen ≤ i) :
    byteSum (packet.put pos digest h) i = byteSum packet i := by
  have hget : Window.get i 4 (packet.put pos digest h).toList = Window.get i 4 packet.toList :=
    Window.get_put_of_disjoint (by rwa [digest.toList_length, packet.toList_length])
      (by rwa [digest.toList_length])
  rw [byteSum, hget, byteSum]

end Put

section Agree

variable {packet : Packet} {scheme : DigestScheme} {key : List UInt8}

/-- The digest is looked for where it was put. -/
lemma digestOffset_installDigest :
    digestOffset (installDigest hmacSha256 packet scheme key).1 scheme
    = digestOffset packet scheme := by
  have hoff := (digest_inside packet scheme).off
  have hle := (digest_inside packet scheme).le
  have hsum : byteSum (installDigest hmacSha256 packet scheme key).1 scheme.digestBlockStart
      = byteSum packet scheme.digestBlockStart :=
    byteSum_put (h := digestOffset_add_le packet scheme) (.inl (by rw [digestOffset]; omega))
  rw [digestOffset, hsum, digestOffset]

/-- Signer and verifier hash the same message. -/
lemma verifyDigest_installDigest :
    verifyDigest hmacSha256 (installDigest hmacSha256 packet scheme key).1 scheme key
      = some (installDigest hmacSha256 packet scheme key).2 := by
  have hmessage : digestMessage (installDigest hmacSha256 packet scheme key).1
      (digestOffset packet scheme) = digestMessage packet (digestOffset packet scheme) :=
    digestMessage_put (h := digestOffset_add_le packet scheme)
  have hslot : Window.get (digestOffset packet scheme) handshakeDigestLen
      (installDigest hmacSha256 packet scheme key).1.toList
        = (installDigest hmacSha256 packet scheme key).2.toList :=
    get_put (h := digestOffset_add_le packet scheme)
  simp only [verifyDigest, digestOffset_installDigest, hmessage, hslot]
  exact if_pos rfl

lemma isSome_findDigest {digest : Digest} (h : verifyDigest hmacSha256 packet scheme key
    = some digest) :
    (findDigest hmacSha256 packet key).isSome = true := by
  rw [findDigest]
  cases h0 : verifyDigest hmacSha256 packet .schema0 key with
  | some d => rfl
  | none =>
      cases scheme with
      | schema0 => exact absurd (h0.symm.trans h) nofun
      | schema1 => simp [h]

/-- A response is verified against the digest and the key it was made with. -/
lemma verifyResponseDigest_install (peerDigest : Digest) (fullKey : List UInt8) :
    verifyResponseDigest hmacSha256 (installResponseDigest hmacSha256 packet peerDigest fullKey)
      peerDigest fullKey = true := by
  have htail : responseTail ≤ packet.toList.length := by
    rw [packet.toList_length]
    exact Nat.sub_le _ _
  have htake : (installResponseDigest hmacSha256 packet peerDigest fullKey).toList.take responseTail
      = packet.toList.take responseTail := Window.take_put htail
  have hdrop : (installResponseDigest hmacSha256 packet peerDigest fullKey).toList.drop responseTail
      = (responseDigest hmacSha256 packet peerDigest fullKey).toList
        ++ packet.toList.drop (responseTail + handshakeDigestLen) := by
    rw [installResponseDigest, toList_put, Window.drop_put htail, List.Vector.toList_length]
  have hend : packet.toList.drop (responseTail + handshakeDigestLen) = [] :=
    List.drop_of_length_le (by rw [packet.toList_length]; decide)
  have hsame : responseDigest hmacSha256 (installResponseDigest hmacSha256 packet peerDigest fullKey)
      peerDigest fullKey = responseDigest hmacSha256 packet peerDigest fullKey := by
    rw [responseDigest, htake, responseDigest]
  rw [verifyResponseDigest, decide_eq_true_eq, hdrop, hend, List.append_nil, hsame]

end Agree

/-- **Digests are self-consistent**, for any message authentication code: the slots of the digest and of
the key lie in their own blocks, off the bytes that say where they are; what is installed is
verified and found, and only its slot changes; and so it is with responses. -/
theorem digest_self_consistent (packet : Packet) (key : List UInt8) :
    (∀ scheme : DigestScheme,
      Inside scheme.digestBlockStart scheme.digestBlockStart (digestOffset packet scheme) 32 ∧
      Inside scheme.keyBlockStart (scheme.keyBlockStart + blockLen - 4) (keyOffset packet scheme) 128 ∧
      (scheme.digestBlockStart + blockLen ≤ scheme.keyBlockStart ∨
        scheme.keyBlockStart + blockLen ≤ scheme.digestBlockStart) ∧
      ∃ signed digest, installDigest hmacSha256 packet scheme key = (signed, digest) ∧
        (∀ i, i < digestOffset packet scheme ∨ digestOffset packet scheme + 32 ≤ i →
          signed.toList[i]? = packet.toList[i]?) ∧
        digestOffset signed scheme = digestOffset packet scheme ∧
        verifyDigest hmacSha256 signed scheme key = some digest ∧
        (findDigest hmacSha256 signed key).isSome = true) ∧
    ∀ (peerDigest : Digest) (fullKey : List UInt8),
      ∃ response, installResponseDigest hmacSha256 packet peerDigest fullKey = response ∧
        verifyResponseDigest hmacSha256 response peerDigest fullKey = true ∧
        ∀ i < 1504, response.toList[i]? = packet.toList[i]? := by
  constructor
  · intro scheme
    refine ⟨digest_inside packet scheme, key_inside packet scheme, blocks_disjoint scheme, _, _, rfl,
      fun i hi => getElem?_put (h := digestOffset_add_le packet scheme) hi,
      digestOffset_installDigest hmacSha256,
      verifyDigest_installDigest hmacSha256, ?_⟩
    exact isSome_findDigest hmacSha256 (verifyDigest_installDigest hmacSha256)
  · intro peerDigest fullKey
    exact ⟨_, rfl, verifyResponseDigest_install hmacSha256 peerDigest fullKey,
      fun i hi => getElem?_put (h := responseTail_add_le) (.inl hi)⟩

end Mac

/-- A code that only looks at the length of its key, and a packet of zeros. -/
theorem digest_self_consistent_zeros :
    let hmac : List UInt8 → List UInt8 → Digest := fun key _ => .replicate _ (UInt8.ofNat key.length)
    let packet : Packet := .replicate _ 0
    let signed := (installDigest hmac packet .schema1 [7, 7]).1
    signed.toList[11]? = packet.toList[11]? ∧
      verifyDigest hmac signed .schema1 [7, 7] = some (.replicate _ 2) ∧
      verifyResponseDigest hmac (installResponseDigest hmac packet (.replicate _ 1) [9])
        (.replicate _ 1) [9] = true := by
  intro hmac packet signed
  obtain ⟨hschemes, hresponses⟩ := digest_self_consistent hmac packet [7, 7]
  obtain ⟨-, -, -, _, _, hinstall, hrest, -, hverify, -⟩ := hschemes .schema1
  cases hinstall
  obtain ⟨_, hmade, hresponse, -⟩ := hresponses (.replicate _ 1) [9]
  have hslot : 11 < digestOffset packet .schema1 := by decide +kernel
  exact ⟨hrest 11 (.inl hslot), hverify, hmade ▸ hresponse⟩

end Rtmp.Handshake
