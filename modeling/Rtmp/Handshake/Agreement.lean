import Rtmp.Handshake.Exchange

/-!
What the handshake settles on.

* `Unmistakable`: a packet that was signed under one scheme and does not happen to verify under the one
  that is tried first;
* **`simple_agrees`**: a plain client and the server;
* **`digest_agrees`**: a client with digests and the server;
* `CountsBytes`: what a program does whose peer may be anybody;
* **`any_peer`**: the three programs against any peer, and the client with digests against one that
  knows of none.
-/

namespace Rtmp.Handshake

open Duplex

section Mac

variable (hmacSha256 : (key message : List UInt8) → Digest)

/-! ### Packets and what is found in them -/

/-- A packet that does not happen to have a digest under the scheme that is tried first, unless it was
signed under this one. -/
def Unmistakable (packet : Packet) (scheme : DigestScheme) (key : List UInt8) : Prop :=
  scheme = .schema0 ∨ verifyDigest hmacSha256 packet .schema0 key = none

variable {hmacSha256}

/-- What was installed is found, under its scheme. -/
lemma findDigest_of_unmistakable {packet : Packet} {scheme : DigestScheme} {key : List UInt8}
    {digest : Digest} (h : verifyDigest hmacSha256 packet scheme key = some digest)
    (hscheme : Unmistakable hmacSha256 packet scheme key) :
    findDigest hmacSha256 packet key = some (scheme, digest) := by
  rw [findDigest]
  cases scheme with
  | schema0 => rw [h]
  | schema1 =>
      have hfirst : verifyDigest hmacSha256 packet .schema0 key = none :=
        hscheme.resolve_left (by rintro ⟨⟩)
      rw [hfirst, h]
      rfl

/-- A digest keeps off the version. -/
lemma clientVersion_installDigest (packet : Packet) (scheme : DigestScheme) (key : List UInt8) :
    clientVersion (installDigest hmacSha256 packet scheme key).1 = clientVersion packet := by
  have hpos : 4 + 4 ≤ digestOffset packet scheme := by
    have hle := (digest_inside packet scheme).le
    have hstart : 8 ≤ scheme.digestBlockStart := by
      cases scheme <;> simp [DigestScheme.digestBlockStart]
    omega
  have hget : Window.get 4 4 (installDigest hmacSha256 packet scheme key).1.toList
      = Window.get 4 4 packet.toList :=
    Window.get_put_of_disjoint (by
      rw [List.Vector.toList_length, packet.toList_length]
      exact digestOffset_add_le packet scheme) (.inl hpos)
  rw [clientVersion, hget, clientVersion]

lemma clientVersion_ofHeader (time version : UInt32) (rest : List.Vector UInt8 1528) :
    clientVersion (.ofHeader time version rest) = version.toNat := by
  have hget : Window.get 4 4 (Packet.ofHeader time version rest).toList
      = Bytes.toBe 4 version.toNat := by
    rw [Window.get, Packet.ofHeader, List.Vector.toList_mk, List.drop_left' (Bytes.length_toBe _ _),
      List.take_left' (Bytes.length_toBe _ _)]
  rw [clientVersion, hget, Bytes.ofBe_toBe version.toNat_lt]

end Mac

section Programs

variable (hmacSha256 : (key message : List UInt8) → Digest) (clientSecs clientSecs' : UInt32)
  (serverSecs serverSecs' : UInt32)

/-- The server takes a packet without a version for that of a plain client. -/
lemma serverAnswer_simple {c1 : Packet} (h : detected hmacSha256 c1 = none) :
    serverAnswer hmacSha256 serverSecs serverSecs' c1
      = (fillOutgoingPayload serverSecs, c1, fun _ => .simple) := by
  rw [serverAnswer, h]

lemma detected_fillOutgoingPayload (secs : UInt32) :
    detected hmacSha256 (fillOutgoingPayload secs) = none := by
  have hversion : clientVersion (fillOutgoingPayload secs) = 0 := clientVersion_ofHeader _ _ _
  rw [detected, if_pos hversion]

/-- The server looks into a packet with a digest. -/
lemma detected_clientPacket (scheme : DigestScheme) :
    detected hmacSha256 (clientPacket hmacSha256 clientSecs clientSecs' scheme).1
      = findDigest hmacSha256 (clientPacket hmacSha256 clientSecs clientSecs' scheme).1
        (genuineFpKey.take fpLabelLen) := by
  have hversion : clientVersion (clientPacket hmacSha256 clientSecs clientSecs' scheme).1 ≠ 0 := by
    rw [clientPacket, buildDigestPacket, clientVersion_installDigest, clientVersion_ofHeader]
    decide
  rw [detected, if_neg hversion]

/-- **A plain client and the server** agree on the plain handshake: C2 is S1, and S2 is C1. -/
theorem simple_agrees :
    Agree (clientHandshake clientSecs) (serverHandshakeNegotiated hmacSha256 serverSecs serverSecs')
      (.ok ()) (.ok .simple)
      (rtmpVersion :: (fillOutgoingPayload clientSecs).toList
        ++ (fillOutgoingPayload serverSecs).toList)
      (rtmpVersion :: (fillOutgoingPayload serverSecs).toList
        ++ (fillOutgoingPayload clientSecs).toList) := by
  have hagree := agree (fillOutgoingPayload clientSecs) (fun s1 => (s1, fun _ => ()))
    (serverAnswer hmacSha256 serverSecs serverSecs')
  rw [← clientHandshake_eq, ← serverHandshakeNegotiated_eq, serverAnswer_simple hmacSha256 serverSecs
    serverSecs' (detected_fillOutgoingPayload hmacSha256 clientSecs)] at hagree
  exact hagree

/-- **A client with digests and the server** agree on the handshake with digests; unless a packet
happens to have a second digest, both report the scheme of the client, and each has verified the
response of the other. -/
theorem digest_agrees (scheme : DigestScheme) :
    ∃ s v s' v' x y, Agree (clientHandshakeDigest hmacSha256 clientSecs clientSecs' scheme)
      (serverHandshakeNegotiated hmacSha256 serverSecs serverSecs') (.ok (.digest s v))
      (.ok (.digest s' v'))
      x y ∧
    (Unmistakable hmacSha256 (clientPacket hmacSha256 clientSecs clientSecs' scheme).1 scheme
        (genuineFpKey.take fpLabelLen) →
      Unmistakable hmacSha256 (serverPacket hmacSha256 serverSecs serverSecs' scheme).1 scheme
        (genuineFmsKey.take fmsLabelLen) →
      s = scheme ∧ v = true ∧ s' = scheme ∧ v' = true) := by
  have hagree := agree (clientPacket hmacSha256 clientSecs clientSecs' scheme).1
    (clientAnswer hmacSha256 clientSecs clientSecs' scheme)
    (serverAnswer hmacSha256 serverSecs serverSecs')
  rw [← clientHandshakeDigest_eq, ← serverHandshakeNegotiated_eq] at hagree
  have hc1 : verifyDigest hmacSha256 (clientPacket hmacSha256 clientSecs clientSecs' scheme).1 scheme
      (genuineFpKey.take fpLabelLen) = some (clientPacket hmacSha256 clientSecs clientSecs' scheme).2 :=
    verifyDigest_installDigest hmacSha256
  have hs1 : ∀ scheme', verifyDigest hmacSha256
      (serverPacket hmacSha256 serverSecs serverSecs' scheme').1 scheme'
      (genuineFmsKey.take fmsLabelLen)
        = some (serverPacket hmacSha256 serverSecs serverSecs' scheme').2 :=
    fun _ => verifyDigest_installDigest hmacSha256
  -- what each of the two finds, whatever it is
  obtain ⟨⟨s', c1Digest⟩, hfound'⟩ := Option.isSome_iff_exists.mp (isSome_findDigest hmacSha256 hc1)
  obtain ⟨⟨s, s1Digest⟩, hfound⟩ := Option.isSome_iff_exists.mp (isSome_findDigest hmacSha256 (hs1 s'))
  have hserver := hfound'
  rw [← detected_clientPacket] at hserver
  simp only [serverAnswer, hserver, clientAnswer, hfound] at hagree
  -- where no packet passes for the other scheme, each finds the one that was used
  refine ⟨s, _, s', _, _, _, hagree, fun hclient hmistake => ?_⟩
  have hsame := findDigest_of_unmistakable hc1 hclient
  rw [hfound', Option.some.injEq, Prod.mk.injEq] at hsame
  obtain ⟨rfl, rfl⟩ := hsame
  have hsame' := findDigest_of_unmistakable (hs1 s') hmistake
  rw [hfound, Option.some.injEq, Prod.mk.injEq] at hsame'
  obtain ⟨rfl, rfl⟩ := hsame'
  exact ⟨rfl, verifyResponseDigest_install hmacSha256 _ _, rfl,
    verifyResponseDigest_install hmacSha256 _ _⟩

end Programs

/-- The code of a message, as a digest. -/
def hmacDigest (key message : List UInt8) : Digest :=
  ⟨Hmac.hmacSha256 key message, Hmac.length_sha256 _⟩

/-- A code of a message that is quicker to compute. -/
def checksum (key message : List UInt8) : Digest :=
  .replicate handshakeDigestLen ((key ++ message).foldl (· + ·) 0)

/-- At two readings of the clock: with the hash of the crate under the first scheme, which needs no
luck, and with a checksum under the second, where the packets have no digest under the first. -/
theorem digest_agrees_sha256 :
    (∃ x y, Agree (clientHandshakeDigest hmacDigest 1700000000 1700000001 .schema0)
      (serverHandshakeNegotiated hmacDigest 1700000000 1700000000) (.ok (.digest .schema0 true))
      (.ok (.digest .schema0 true)) x y) ∧
    ∃ x y, Agree (clientHandshakeDigest checksum 1700000000 1700000001 .schema1)
      (serverHandshakeNegotiated checksum 1700000000 1700000000) (.ok (.digest .schema1 true))
      (.ok (.digest .schema1 true)) x y := by
  constructor
  · obtain ⟨s, v, s', v', x, y, hagree, hlucky⟩ :=
      digest_agrees hmacDigest 1700000000 1700000001 1700000000 1700000000 .schema0
    obtain ⟨rfl, rfl, rfl, rfl⟩ := hlucky (.inl rfl) (.inl rfl)
    exact ⟨x, y, hagree⟩
  · obtain ⟨s, v, s', v', x, y, hagree, hlucky⟩ :=
      digest_agrees checksum 1700000000 1700000001 1700000000 1700000000 .schema1
    obtain ⟨rfl, rfl, rfl, rfl⟩ := hlucky (.inr (by decide +kernel)) (.inr (by decide +kernel))
    exact ⟨x, y, hagree⟩

section Programs

variable (hmacSha256 : (key message : List UInt8) → Digest) (clientSecs clientSecs' : UInt32)
  (serverSecs serverSecs' : UInt32)

/-- **Any peer**: each of the programs ends well on the version and two packets and on nothing else,
takes no more than these, and sends as much; until it has seen the version of its peer it has sent at
most its own version and packet.  A client with digests that finds none in S1 sends it
back and ends plainly; so does the server with C1. -/
theorem any_peer :
    CountsBytes (rtmpVersion :: (fillOutgoingPayload clientSecs).toList) (clientHandshake clientSecs) ∧
    (∀ scheme, CountsBytes
      (rtmpVersion :: (clientPacket hmacSha256 clientSecs clientSecs' scheme).1.toList)
      (clientHandshakeDigest hmacSha256 clientSecs clientSecs' scheme)) ∧
    CountsBytes [] (serverHandshakeNegotiated hmacSha256 serverSecs serverSecs') ∧
    CountsBytes [] (serverHandshake hmacSha256 serverSecs serverSecs') ∧
    (∀ scheme (s1 s2 : Packet) rest,
      findDigest hmacSha256 s1 (genuineFmsKey.take fmsLabelLen) = none →
      (clientHandshakeDigest hmacSha256 clientSecs clientSecs' scheme).run
          (rtmpVersion :: (s1.toList ++ (s2.toList ++ rest)))
        = (rtmpVersion :: (clientPacket hmacSha256 clientSecs clientSecs' scheme).1.toList ++ s1.toList,
          some (.ok .simple, rest))) ∧
    ∀ (c1 c2 : Packet) rest, detected hmacSha256 c1 = none →
      (serverHandshakeNegotiated hmacSha256 serverSecs serverSecs').run
          (rtmpVersion :: (c1.toList ++ (c2.toList ++ rest)))
        = (rtmpVersion :: (fillOutgoingPayload serverSecs).toList ++ c1.toList,
          some (.ok .simple, rest)) := by
  rw [clientHandshake_eq, serverHandshake, serverHandshakeNegotiated_eq]
  refine ⟨initiate_countsBytes _ _, fun scheme => ?_, accept_countsBytes _,
    (accept_countsBytes _).map _, fun scheme s1 s2 rest hnone => ?_, fun c1 c2 rest hnone => ?_⟩
  · rw [clientHandshakeDigest_eq]
    exact initiate_countsBytes _ _
  · rw [clientHandshakeDigest_eq, run_initiate_ok, clientAnswer, hnone]
  · rw [run_accept_ok, serverAnswer_simple hmacSha256 serverSecs serverSecs' hnone]

end Programs

end Rtmp.Handshake
