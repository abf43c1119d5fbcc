import Rtmp.Handshake.Digest
import Rtmp.Handshake.Hmac
import Rtmp.Lib.Duplex
import Rtmp.Lib.Utf8

/-!
The handshake, as two programs.

The clock is read in turn, and each reading is a parameter; the message authentication code is one, too.

* `fillRandom`, `fillOutgoingPayload`, `buildDigestPacket`: the packets;
* `clientHandshake`, `clientHandshakeDigest`, `serverHandshakeNegotiated`: the three programs;
* `initiate`, `accept`: what they have in common, each a program that answers packets;
* **`exchange_ends_iff`**: an initiator and an acceptor end, in any order of their steps, if and only if
  one of the channels takes a whole packet.
-/

namespace Rtmp.Handshake

open Duplex

def rtmpVersion : UInt8 := 0x03

def handshakeClientVersion : UInt32 := 0x80000702

def handshakeServerVersion : UInt32 := 0x0D0E0A0D

def keySuffix : List UInt8 := [
  0xF0, 0xEE, 0xC2, 0x4A, 0x80, 0x68, 0xBE, 0xE8, 0x2E, 0x00, 0xD0, 0xD1, 0x02, 0x9E, 0x7E, 0x57,
  0x6E, 0xEC, 0x5D, 0x2D, 0x29, 0x80, 0x6F, 0xAB, 0x93, 0xB8, 0xE6, 0x36, 0xCF, 0xEB, 0x31, 0xAE]

def fpLabelLen : ℕ := 30

def fmsLabelLen : ℕ := 36

def genuineFpKey : List UInt8 := Utf8.encode "Genuine Adobe Flash Player 001" ++ keySuffix

def genuineFmsKey : List UInt8 := Utf8.encode "Genuine Adobe Flash Media Server 001" ++ keySuffix

/-- A first byte that is not the version of the protocol. -/
inductive HandshakeError where
  | unsupportedHandshakeVersion (version : UInt8)
  deriving DecidableEq, Repr

/-- The flavour that was settled on; for the one with digests, the scheme of the packet that was
received, and whether the response of the peer was verified. -/
inductive HandshakeKind where
  | simple
  | digest (scheme : DigestScheme) (peerResponseVerified : Bool)
  deriving DecidableEq, Repr

/-! ### Packets -/

def xorshift (state : UInt64) : UInt64 :=
  let state := state ^^^ (state <<< 13)
  let state := state ^^^ (state >>> 7)
  state ^^^ (state <<< 17)

/-- The words drawn after `state`. -/
def randomWords : ℕ → UInt64 → List UInt64
  | 0, _ => []
  | n + 1, state =>
      let state := xorshift state
      state * 0x2545F4914F6CDD1D :: randomWords n state

lemma length_randomWords (n : ℕ) (state : UInt64) : (randomWords n state).length = n := by
  induction n generalizing state with
  | zero => rfl
  | succ n ih => rw [randomWords, List.length_cons, ih]

/-- `n` bytes, the last word cut off where they end. -/
def fillRandom (n : ℕ) (seed : UInt64) : List.Vector UInt8 n :=
  let state := seed ||| (seed <<< 32) ||| 0x9E3779B97F4A7C15
  ⟨((randomWords ((n + 7) / 8) state).flatMap fun word => Bytes.toBe 8 word.toNat).take n, by
    simp only [List.length_take, List.length_flatMap, Bytes.length_toBe, List.map_const',
      List.sum_replicate,
      length_randomWords, smul_eq_mul]
    omega⟩

/-- A packet by its time, its version and what comes behind them. -/
def Packet.ofHeader (time version : UInt32) (rest : List.Vector UInt8 1528) : Packet :=
  ⟨Bytes.toBe 4 time.toNat ++ (Bytes.toBe 4 version.toNat ++ rest.toList), by
    simp only [List.length_append, Bytes.length_toBe, List.Vector.toList_length]
    rfl⟩

/-- A packet without a digest: its version is zero. -/
def fillOutgoingPayload (secs : UInt32) : Packet := .ofHeader secs 0 (fillRandom _ secs.toUInt64)

/-- The version that C1 says. -/
def clientVersion (c1 : Packet) : ℕ := Bytes.ofBe (Window.get 4 4 c1.toList)

section Mac

variable (hmacSha256 : (key message : List UInt8) → Digest)

def buildDigestPacket (secs version : UInt32) (scheme : DigestScheme) (key : List UInt8)
    (seed : UInt64) :
    Packet × Digest :=
  installDigest hmacSha256 (.ofHeader secs version (fillRandom _ seed)) scheme key

/-! ### Programs -/

def clientHandshake (secs : UInt32) : Proc UInt8 (Except HandshakeError Unit) := do
  Proc.writeAll (rtmpVersion :: (fillOutgoingPayload secs).toList)
  let s0 ← Proc.readExact 1
  if s0.head ≠ rtmpVersion then
    pure (.error (.unsupportedHandshakeVersion s0.head))
  else
    let s1 ← Proc.readExact handshakePayloadLen
    Proc.writeAll s1.toList
    let _ ← Proc.readExact (β := UInt8) handshakePayloadLen
    pure (.ok ())

def clientHandshakeDigest (secs secs' : UInt32) (scheme : DigestScheme) :
    Proc UInt8 (Except HandshakeError HandshakeKind) := do
  let seed := secs.toUInt64
  let (c1, c1Digest) := buildDigestPacket hmacSha256 secs' handshakeClientVersion scheme
    (genuineFpKey.take fpLabelLen) seed
  Proc.writeAll (rtmpVersion :: c1.toList)
  let s0 ← Proc.readExact 1
  if s0.head ≠ rtmpVersion then
    pure (.error (.unsupportedHandshakeVersion s0.head))
  else
    let s1 ← Proc.readExact handshakePayloadLen
    match findDigest hmacSha256 s1 (genuineFmsKey.take fmsLabelLen) with
    | some (s1Scheme, s1Digest) =>
        let c2 := installResponseDigest hmacSha256 (fillRandom _ (seed ^^^ 0x00C200C200C200C2)) s1Digest
          genuineFpKey
        Proc.writeAll c2.toList
        let s2 ← Proc.readExact handshakePayloadLen
        let verified := verifyResponseDigest hmacSha256 s2 c1Digest genuineFmsKey
        pure (.ok (.digest s1Scheme verified))
    | none =>
        Proc.writeAll s1.toList
        let _ ← Proc.readExact (β := UInt8) handshakePayloadLen
        pure (.ok .simple)

def serverHandshakeNegotiated (secs secs' : UInt32) :
    Proc UInt8 (Except HandshakeError HandshakeKind) := do
  let c0 ← Proc.readExact 1
  if c0.head ≠ rtmpVersion then
    pure (.error (.unsupportedHandshakeVersion c0.head))
  else
    let c1 ← Proc.readExact handshakePayloadLen
    let detected :=
      if clientVersion c1 = 0 then none else findDigest hmacSha256 c1 (genuineFpKey.take fpLabelLen)
    match detected with
    | none =>
        Proc.writeAll (rtmpVersion :: ((fillOutgoingPayload secs).toList ++ c1.toList))
        let _ ← Proc.readExact (β := UInt8) handshakePayloadLen
        pure (.ok .simple)
    | some (scheme, c1Digest) =>
        let seed := secs.toUInt64 ^^^ 0x5EED000000005EED
        let (s1, s1Digest) := buildDigestPacket hmacSha256 secs' handshakeServerVersion scheme
          (genuineFmsKey.take fmsLabelLen) seed
        let s2 := installResponseDigest hmacSha256 (fillRandom _ (seed ^^^ 0x0052005200520052)) c1Digest
          genuineFmsKey
        Proc.writeAll (rtmpVersion :: (s1.toList ++ s2.toList))
        let c2 ← Proc.readExact handshakePayloadLen
        let verified := verifyResponseDigest hmacSha256 c2 s1Digest genuineFpKey
        pure (.ok (.digest scheme verified))

def serverHandshake (secs secs' : UInt32) : Proc UInt8 (Except HandshakeError Unit) := do
  let kind ← serverHandshakeNegotiated hmacSha256 secs secs'
  pure (kind.map fun _ => ())

end Mac

/-! ### What the programs have in common -/

section Shape

variable {κ μ α γ : Type}

/-- Send C1; to S1 send what `answer` says, and end in what it makes of S2. -/
def initiate (c1 : Packet) (answer : Packet → Packet × (Packet → κ)) :
    Proc UInt8 (Except HandshakeError κ) := do
  Proc.writeAll (rtmpVersion :: c1.toList)
  let s0 ← Proc.readExact 1
  if s0.head ≠ rtmpVersion then
    pure (.error (.unsupportedHandshakeVersion s0.head))
  else
    let s1 ← Proc.readExact handshakePayloadLen
    Proc.writeAll (answer s1).1.toList
    let s2 ← Proc.readExact handshakePayloadLen
    pure (.ok ((answer s1).2 s2))

/-- To C1 send the packets that `answer` says, and end in what it makes of C2. -/
def accept (answer : Packet → Packet × Packet × (Packet → μ)) :
    Proc UInt8 (Except HandshakeError μ) := do
  let c0 ← Proc.readExact 1
  if c0.head ≠ rtmpVersion then
    pure (.error (.unsupportedHandshakeVersion c0.head))
  else
    let c1 ← Proc.readExact handshakePayloadLen
    Proc.writeAll (rtmpVersion :: ((answer c1).1.toList ++ (answer c1).2.1.toList))
    let c2 ← Proc.readExact handshakePayloadLen
    pure (.ok ((answer c1).2.2 c2))

lemma clientHandshake_eq (secs : UInt32) :
    clientHandshake secs = initiate (fillOutgoingPayload secs) fun s1 => (s1, fun _ => ()) := rfl

end Shape

section Answers

variable (hmacSha256 : (key message : List UInt8) → Digest) (secs secs' : UInt32)

/-- C1 with its digest, and the digest. -/
def clientPacket (scheme : DigestScheme) : Packet × Digest :=
  buildDigestPacket hmacSha256 secs' handshakeClientVersion scheme (genuineFpKey.take fpLabelLen)
    secs.toUInt64

/-- What the client answers to S1, and what it makes of S2. -/
def clientAnswer (scheme : DigestScheme) (s1 : Packet) : Packet × (Packet → HandshakeKind) :=
  match findDigest hmacSha256 s1 (genuineFmsKey.take fmsLabelLen) with
  | some (s1Scheme, s1Digest) =>
      (installResponseDigest hmacSha256 (fillRandom _ (secs.toUInt64 ^^^ 0x00C200C200C200C2)) s1Digest
        genuineFpKey, fun s2 =>
        .digest s1Scheme (verifyResponseDigest hmacSha256 s2
          (clientPacket hmacSha256 secs secs' scheme).2 genuineFmsKey))
  | none => (s1, fun _ => .simple)

/-- S1 with its digest, and the digest. -/
def serverPacket (scheme : DigestScheme) : Packet × Digest :=
  buildDigestPacket hmacSha256 secs' handshakeServerVersion scheme (genuineFmsKey.take fmsLabelLen)
    (secs.toUInt64 ^^^ 0x5EED000000005EED)

/-- What the server finds in C1. -/
def detected (c1 : Packet) : Option (DigestScheme × Digest) :=
  if clientVersion c1 = 0 then none else findDigest hmacSha256 c1 (genuineFpKey.take fpLabelLen)

/-- What the server answers to C1, and what it makes of C2. -/
def serverAnswer (c1 : Packet) : Packet × Packet × (Packet → HandshakeKind) :=
  match detected hmacSha256 c1 with
  | none => (fillOutgoingPayload secs, c1, fun _ => .simple)
  | some (scheme, c1Digest) =>
      ((serverPacket hmacSha256 secs secs' scheme).1,
        installResponseDigest hmacSha256
          (fillRandom _ (secs.toUInt64 ^^^ 0x5EED000000005EED ^^^ 0x0052005200520052)) c1Digest
          genuineFmsKey,
        fun c2 => .digest scheme (verifyResponseDigest hmacSha256 c2
          (serverPacket hmacSha256 secs secs' scheme).2 genuineFpKey))

lemma clientHandshakeDigest_eq (scheme : DigestScheme) :
    clientHandshakeDigest hmacSha256 secs secs' scheme
      = initiate (clientPacket hmacSha256 secs secs' scheme).1
        (clientAnswer hmacSha256 secs secs' scheme) := by
  rw [clientHandshakeDigest, initiate]
  refine congrArg (Proc.writeAll _ >>= ·) (funext fun _ => ?_)
  refine congrArg (Proc.readExact 1 >>= ·) (funext fun s0 => if_congr Iff.rfl rfl ?_)
  refine congrArg _ (funext fun s1 => ?_)
  rw [clientAnswer]
  cases findDigest hmacSha256 s1 (genuineFmsKey.take fmsLabelLen) with
  | none => rfl
  | some found => rfl

lemma serverHandshakeNegotiated_eq :
    serverHandshakeNegotiated hmacSha256 secs secs' = accept (serverAnswer hmacSha256 secs secs') := by
  rw [serverHandshakeNegotiated, accept]
  refine congrArg _ (funext fun c0 => if_congr Iff.rfl rfl ?_)
  refine congrArg _ (funext fun c1 => ?_)
  rw [serverAnswer, detected]
  cases (if clientVersion c1 = 0 then none else findDigest hmacSha256 c1
    (genuineFpKey.take fpLabelLen)) with
  | none => rfl
  | some found => rfl

end Answers

/-! ### An initiator and an acceptor -/

section Run

variable {κ μ α γ : Type} {capR capL : ℕ∞} (c1 : Packet) (f : Packet → Packet × (Packet → κ))
  (g : Packet → Packet × Packet × (Packet → μ)) (p : Except HandshakeError κ → Proc UInt8 α)
  (q : Except HandshakeError μ → Proc UInt8 γ)

/-- The byte in front of the packets. -/
def versionByte : List.Vector UInt8 1 := rtmpVersion ::ᵥ .nil

/-- What the initiator does after C0 and C1. -/
def initiateTail : Proc UInt8 α :=
  Proc.readExact 1 >>= fun s0 =>
    if s0.head ≠ rtmpVersion then p (.error (.unsupportedHandshakeVersion s0.head))
    else Proc.readExact handshakePayloadLen >>= fun s1 => Proc.writeAll (f s1).1.toList >>= fun _ =>
      Proc.readExact handshakePayloadLen >>= fun s2 => p (.ok ((f s1).2 s2))

lemma initiate_bind : (initiate c1 f >>= p)
    = Proc.writeAll versionByte.toList >>= fun _ => Proc.writeAll c1.toList >>= fun _ =>
      initiateTail f p := by
  rw [← Proc.writeAll_append_bind, initiate, Proc.bind_assoc]
  refine congrArg (Proc.writeAll _ >>= ·) (funext fun _ => ?_)
  rw [Proc.bind_assoc]
  refine congrArg (Proc.readExact 1 >>= ·) (funext fun s0 => ?_)
  split_ifs
  · exact Proc.pure_bind _ _
  · simp only [Proc.bind_assoc, Proc.pure_bind]

lemma accept_bind : (accept g >>= q)
    = Proc.readExact 1 >>= fun c0 =>
      if c0.head ≠ rtmpVersion then q (.error (.unsupportedHandshakeVersion c0.head))
      else Proc.readExact handshakePayloadLen >>= fun c1 =>
        Proc.writeAll versionByte.toList >>= fun _ => Proc.writeAll (g c1).1.toList >>= fun _ =>
        Proc.writeAll (g c1).2.1.toList >>= fun _ => Proc.readExact handshakePayloadLen >>= fun c2 =>
          q (.ok ((g c1).2.2 c2)) := by
  rw [accept, Proc.bind_assoc]
  refine congrArg (Proc.readExact 1 >>= ·) (funext fun c0 => ?_)
  split_ifs
  · exact Proc.pure_bind _ _
  · simp only [Proc.bind_assoc, Proc.pure_bind]
    refine congrArg (Proc.readExact _ >>= ·) (funext fun c1 => ?_)
    rw [← Proc.writeAll_append_bind, ← Proc.writeAll_append_bind]
    rfl

/-- Up to C2 and S2, the parties take turns. -/
lemma exchange_run (hr : 0 < capR) (hl : 0 < capL) :
    Net.Run capR capL ⟨initiate c1 f >>= p, accept g >>= q, [], []⟩
      ⟨Proc.writeAll (f (g c1).1).1.toList >>= fun _ => Proc.readExact handshakePayloadLen >>= fun s2 =>
          p (.ok ((f (g c1).1).2 s2)),
        Proc.writeAll (g c1).2.1.toList >>= fun _ => Proc.readExact handshakePayloadLen >>= fun c2 =>
          q (.ok ((g c1).2.2 c2)), [], []⟩ := by
  rw [initiate_bind, accept_bind]
  refine (Net.handover hr versionByte _ _).trans ?_
  refine (Net.handover hr c1 _ _).trans ?_
  refine (Net.handover hl versionByte _ _).swap.trans ?_
  exact (Net.handover hl (g c1).1 _ _).swap

end Run

/-! ### Agreement -/

/-- One of the channels takes a whole packet. -/
def Roomy (capR capL : ℕ∞) : Prop :=
  (handshakePayloadLen : ℕ∞) ≤ capR ∨ (handshakePayloadLen : ℕ∞) ≤ capL

/-- The two programs end in `a` and `b`, in whatever order they take their steps: if and only if one
of the channels takes a packet, and otherwise both wait for ever to send more.  If they end at all
then so, when one has sent `x` and the other `y`; and what is run behind them on the same channels
runs as if it were run there alone. -/
structure Agree {κ μ : Type} (client : Proc UInt8 κ) (server : Proc UInt8 μ) (a : κ) (b : μ)
    (x y : List UInt8) : Prop where
  ends : ∀ capR capL : ℕ∞, 0 < capR → 0 < capL →
    (EndsIn (Net.Step capR capL) ⟨client, server, [], []⟩ ⟨.halt a, .halt b, [], []⟩ ↔
      Roomy capR capL)
  stuck : ∀ capR capL : ℕ∞, 0 < capR → 0 < capL → ¬ Roomy capR capL →
    ∃ b p c q r l,
      EndsIn (Net.Step capR capL) ⟨client, server, [], []⟩ ⟨.put b p, .put c q, r, l⟩
  only : ∀ capR capL a' b' r l,
    Net.Run capR capL ⟨client, server, [], []⟩ ⟨.halt a', .halt b', r, l⟩ →
      a' = a ∧ b' = b ∧ r = [] ∧ l = []
  bytes : ∀ rest,
    client.run (y ++ rest) = (x, some (a, rest)) ∧ server.run (x ++ rest) = (y, some (b, rest))
  length_sent : x.length = 1 + 2 * handshakePayloadLen ∧ y.length = 1 + 2 * handshakePayloadLen
  next : ∀ capR capL : ℕ∞, 0 < capR → 0 < capL → Roomy capR capL →
    ∀ {α γ : Type} (p : κ → Proc UInt8 α) (q : μ → Proc UInt8 γ) z,
      EndsIn (Net.Step capR capL) ⟨client >>= p, server >>= q, [], []⟩ z ↔
        EndsIn (Net.Step capR capL) ⟨p a, q b, [], []⟩ z

section Exchange

variable {κ μ : Type} (c1 : Packet) (f : Packet → Packet × (Packet → κ))
  (g : Packet → Packet × Packet × (Packet → μ))

/-- If neither of the channels takes a packet, both wait for ever to send the rest of theirs. -/
lemma exchange_stuck {capR capL : ℕ∞} (hr : 0 < capR) (hl : 0 < capL) (hfull : ¬ Roomy capR capL) :
    ∃ b p c q r l, EndsIn (Net.Step capR capL) ⟨initiate c1 f, accept g, [], []⟩
      ⟨.put b p, .put c q, r, l⟩ := by
  have hrun := exchange_run c1 f g pure pure hr hl
  rw [Proc.bind_pure, Proc.bind_pure] at hrun
  rw [Roomy, not_or, not_le, not_le] at hfull
  -- a channel that does not take a packet is bounded
  lift capR to ℕ using ne_top_of_lt hfull.1
  lift capL to ℕ using ne_top_of_lt hfull.2
  obtain ⟨b, p, c, q, hstuck⟩ := Net.cross_full (f (g c1).1).1 (g c1).2.1
    (fun s2 => (pure (.ok ((f (g c1).1).2 s2)) : Proc UInt8 (Except HandshakeError κ)))
    (fun c2 => (pure (.ok ((g c1).2.2 c2)) : Proc UInt8 (Except HandshakeError μ)))
    (Nat.cast_lt.mp hfull.1) (Nat.cast_lt.mp hfull.2)
  exact ⟨b, p, c, q, _, _, (EndsIn.iff_of_run Net.diamond_step hrun).mpr hstuck⟩

/-- **They end, in any order of their steps, if and only if one of the channels takes a packet.** -/
theorem exchange_ends_iff {capR capL : ℕ∞} (hr : 0 < capR) (hl : 0 < capL) :
    EndsIn (Net.Step capR capL) ⟨initiate c1 f, accept g, [], []⟩
      ⟨.halt (.ok ((f (g c1).1).2 (g c1).2.1)), .halt (.ok ((g c1).2.2 (f (g c1).1).1)), [], []⟩ ↔
      Roomy capR capL := by
  constructor
  · intro hends
    by_contra hfull
    obtain ⟨b, p, c, q, r, l, hstuck⟩ := exchange_stuck c1 f g hr hl hfull
    have hsame := congrArg Net.left (hends.unique hstuck)
    cases hsame
  · intro hroom
    have hrun := exchange_run c1 f g pure pure hr hl
    rw [Proc.bind_pure, Proc.bind_pure] at hrun
    rw [EndsIn.iff_of_run Net.diamond_step hrun]
    exact .of_run Net.diamond_step (Net.cross _ _ _ _ hr hl hroom) (.refl (Net.final_of_halt rfl rfl))

/-- What is run behind them is run as if it were alone. -/
lemma exchange_next {capR capL : ℕ∞} (hr : 0 < capR) (hl : 0 < capL)
    (hroom : Roomy capR capL) {α γ : Type}
    (p : Except HandshakeError κ → Proc UInt8 α) (q : Except HandshakeError μ → Proc UInt8 γ)
    (z : Net UInt8 (Proc UInt8 α) (Proc UInt8 γ)) :
    EndsIn (Net.Step capR capL) ⟨initiate c1 f >>= p, accept g >>= q, [], []⟩ z ↔
      EndsIn (Net.Step capR capL)
        ⟨p (.ok ((f (g c1).1).2 (g c1).2.1)), q (.ok ((g c1).2.2 (f (g c1).1).1)), [], []⟩ z :=
  EndsIn.iff_of_run Net.diamond_step
    ((exchange_run c1 f g p q hr hl).trans (Net.cross _ _ _ _ hr hl hroom))

/-- A program that starts with the version of its peer. -/
lemma run_version {α : Type} (v : UInt8) (more : List UInt8)
    (p : Except HandshakeError κ → Proc UInt8 α) (q : Proc UInt8 α) :
    (Proc.readExact 1 >>= fun b =>
      if b.head ≠ rtmpVersion then p (.error (.unsupportedHandshakeVersion b.head)) else q).run
        (v :: more)
      = if v ≠ rtmpVersion then (p (.error (.unsupportedHandshakeVersion v))).run more
        else q.run more := by
  have hrun := Proc.run_readExact_bind (v ::ᵥ .nil) (fun b =>
    if b.head ≠ rtmpVersion then p (.error (.unsupportedHandshakeVersion b.head)) else q) more
  rw [List.Vector.head_cons] at hrun
  refine hrun.trans ?_
  split_ifs
  · rfl
  · rfl

lemma run_initiate (input : List UInt8) :
    (initiate c1 f).run input
    = (rtmpVersion :: c1.toList ++ ((initiateTail f pure).run input).1,
      ((initiateTail f pure).run input).2) := by
  rw [← Proc.bind_pure (initiate c1 f), initiate_bind, ← Proc.writeAll_append_bind,
    Proc.run_writeAll_bind]
  rfl

/-- An initiator that gets all it waits for. -/
lemma run_initiate_ok (s1 s2 : Packet) (rest : List UInt8) :
    (initiate c1 f).run (rtmpVersion :: (s1.toList ++ (s2.toList ++ rest)))
      = (rtmpVersion :: c1.toList ++ (f s1).1.toList, some (.ok ((f s1).2 s2), rest)) := by
  rw [run_initiate, initiateTail, run_version, if_neg (not_not_intro rfl), Proc.run_readExact_bind,
    Proc.run_writeAll_bind, Proc.run_readExact_bind, Proc.run_pure, List.append_nil]

/-- An acceptor that gets C1. -/
lemma run_accept (c1 : Packet) (rest : List UInt8) :
    (accept g).run (rtmpVersion :: (c1.toList ++ rest))
      = (rtmpVersion :: (g c1).1.toList ++ (g c1).2.1.toList,
        ((Proc.readExact handshakePayloadLen >>= fun c2 =>
          (pure (.ok ((g c1).2.2 c2)) : Proc UInt8 (Except HandshakeError μ))).run rest).2) := by
  rw [accept, run_version, if_neg (not_not_intro rfl), Proc.run_readExact_bind, Proc.run_writeAll_bind,
    Proc.run_readExact_bind_pure, List.append_nil]
  rfl

lemma run_accept_ok (c1 c2 : Packet) (rest : List UInt8) :
    (accept g).run (rtmpVersion :: (c1.toList ++ (c2.toList ++ rest)))
      = (rtmpVersion :: (g c1).1.toList ++ (g c1).2.1.toList, some (.ok ((g c1).2.2 c2), rest)) := by
  rw [run_accept, Proc.run_readExact_bind, Proc.run_pure]

/-- **Initiators and acceptors agree.** -/
theorem agree : Agree (initiate c1 f) (accept g) (.ok ((f (g c1).1).2 (g c1).2.1))
    (.ok ((g c1).2.2 (f (g c1).1).1)) (rtmpVersion :: c1.toList ++ (f (g c1).1).1.toList)
    (rtmpVersion :: (g c1).1.toList ++ (g c1).2.1.toList) where
  ends _ _ hr hl := exchange_ends_iff c1 f g hr hl
  stuck _ _ hr hl hfull := exchange_stuck c1 f g hr hl hfull
  only capR capL a' b' r l hrun := by
    obtain ⟨x, y, hx, hy⟩ := Net.exists_transcripts hrun
    rw [List.nil_append] at hx hy
    -- what the client sends starts with C1, whatever it gets
    have hsent := run_initiate c1 f y
    rw [hx, Prod.mk.injEq, List.cons_append] at hsent
    rw [hsent.1, run_accept, Prod.mk.injEq] at hy
    -- so the server sends S1 and S2, and the client answers these
    have hgot := run_initiate_ok c1 f (g c1).1 (g c1).2.1 []
    rw [List.append_nil, ← List.cons_append, hy.1, hx] at hgot
    simp only [Prod.mk.injEq, Option.some.injEq] at hgot
    obtain ⟨hall, ha, hl⟩ := hgot
    have hback := run_accept_ok g c1 (f (g c1).1).1 []
    rw [List.append_nil, ← List.cons_append, ← hall, hsent.1, run_accept, Prod.mk.injEq, hy.2] at hback
    simp only [Option.some.injEq, Prod.mk.injEq] at hback
    exact ⟨ha, hback.2.1, hback.2.2, hl⟩
  bytes rest := by
    rw [List.append_assoc, List.append_assoc, List.cons_append, List.cons_append]
    exact ⟨run_initiate_ok c1 f _ _ rest, run_accept_ok g _ _ rest⟩
  length_sent := by
    simp only [List.length_append, List.length_cons, List.Vector.toList_length]
    omega
  next _ _ hr hl hroom _ _ p q z := exchange_next c1 f g hr hl hroom p q z

/-! ### Any peer -/

/-- A program that sends `opening` before it gets anything.  Whoever its peer is: it ends well on the
version and two packets, of which nothing is left over and behind which nothing is touched; it waits
for what is missing of them; and it refuses every other version as soon as it has seen it, when it has
sent nothing but `opening`.  It never sends more than the version and two packets. -/
structure CountsBytes {κ : Type} (opening : List UInt8) (party : Proc UInt8 (Except HandshakeError κ)) :
    Prop where
  completes : ∀ more : List UInt8, 2 * handshakePayloadLen ≤ more.length →
    ∃ sent result, party.run (rtmpVersion :: more)
        = (sent, some (.ok result, more.drop (2 * handshakePayloadLen))) ∧
      sent.length = 1 + 2 * handshakePayloadLen
  waits : ∀ more : List UInt8, more.length < 2 * handshakePayloadLen →
    ∃ sent, party.run (rtmpVersion :: more) = (sent, none) ∧ sent.length ≤ 1 + 2 * handshakePayloadLen
  refuses : ∀ version more, version ≠ rtmpVersion →
    party.run (version :: more)
      = (opening, some (.error (.unsupportedHandshakeVersion version), more))
  silent : party.run [] = (opening, none)

/-- Two packets and what is behind them. -/
lemma exists_two_packets {more : List UInt8} (h : 2 * handshakePayloadLen ≤ more.length) :
    ∃ a b : Packet, more = a.toList ++ (b.toList ++ more.drop (2 * handshakePayloadLen)) := by
  have hlen : (more.take handshakePayloadLen).length = handshakePayloadLen :=
    List.length_take_of_le (by omega)
  have hlen' : ((more.drop handshakePayloadLen).take handshakePayloadLen).length
      = handshakePayloadLen :=
    List.length_take_of_le (by rw [List.length_drop]; omega)
  refine ⟨⟨_, hlen⟩, ⟨_, hlen'⟩, ?_⟩
  rw [List.Vector.toList_mk, List.Vector.toList_mk, two_mul, ← List.drop_drop, List.take_append_drop,
    List.take_append_drop]

lemma initiate_countsBytes : CountsBytes (rtmpVersion :: c1.toList) (initiate c1 f) where
  completes more hmore := by
    obtain ⟨s1, s2, hsplit⟩ := exists_two_packets hmore
    have hrun := run_initiate_ok c1 f s1 s2 (more.drop (2 * handshakePayloadLen))
    rw [← hsplit] at hrun
    refine ⟨_, _, hrun, ?_⟩
    simp only [List.length_append, List.length_cons, List.Vector.toList_length]
    omega
  waits more hmore := by
    rw [run_initiate, initiateTail, run_version, if_neg (not_not_intro rfl)]
    rcases Nat.lt_or_ge more.length handshakePayloadLen with hshort | hlong
    · rw [Proc.run_readExact_bind_of_lt hshort]
      refine ⟨_, rfl, ?_⟩
      simp only [List.length_append, List.length_cons, List.length_nil, List.Vector.toList_length]
      omega
    · obtain ⟨s1, -, hrun⟩ := Proc.exists_run_readExact_bind (γ := Except HandshakeError κ) hlong
      rw [hrun, Proc.run_writeAll_bind,
        Proc.run_readExact_bind_of_lt (by rw [List.length_drop]; omega), List.append_nil]
      refine ⟨_, rfl, ?_⟩
      simp only [List.length_append, List.length_cons, List.Vector.toList_length]
      omega
  refuses version more hversion := by
    rw [run_initiate, initiateTail, run_version, if_pos hversion, Proc.run_pure, List.append_nil]
  silent := by
    rw [run_initiate, initiateTail, Proc.run_readExact_bind_of_lt (by decide), List.append_nil]

lemma accept_countsBytes : CountsBytes [] (accept g) where
  completes more hmore := by
    obtain ⟨c1, c2, hsplit⟩ := exists_two_packets hmore
    have hrun := run_accept_ok g c1 c2 (more.drop (2 * handshakePayloadLen))
    rw [← hsplit] at hrun
    refine ⟨_, _, hrun, ?_⟩
    simp only [List.length_append, List.length_cons, List.Vector.toList_length]
    omega
  waits more hmore := by
    rcases Nat.lt_or_ge more.length handshakePayloadLen with hshort | hlong
    · rw [accept, run_version, if_neg (not_not_intro rfl), Proc.run_readExact_bind_of_lt hshort]
      exact ⟨_, rfl, Nat.zero_le _⟩
    · obtain ⟨c1, hsplit, -⟩ := Proc.exists_run_readExact_bind (γ := Unit) hlong
      have hrun := run_accept g c1 (more.drop handshakePayloadLen)
      rw [← hsplit, Proc.run_readExact_bind_of_lt (by rw [List.length_drop]; omega)] at hrun
      refine ⟨_, hrun, ?_⟩
      simp only [List.length_append, List.length_cons, List.Vector.toList_length]
      omega
  refuses version more hversion := by
    rw [accept, run_version, if_pos hversion, Proc.run_pure]
  silent := by
    rw [accept, Proc.run_readExact_bind_of_lt (by decide)]

/-- What a program makes of its result does not matter. -/
lemma CountsBytes.map {opening : List UInt8} {party : Proc UInt8 (Except HandshakeError κ)}
    (h : CountsBytes opening party) (m : κ → μ) :
    CountsBytes opening (party >>= fun result => pure (result.map m)) where
  completes more hmore := by
    obtain ⟨sent, result, hrun, hsent⟩ := h.completes more hmore
    exact ⟨sent, m result, by rw [Proc.run_bind_pure, hrun]; rfl, hsent⟩
  waits more hmore := by
    obtain ⟨sent, hrun, hsent⟩ := h.waits more hmore
    exact ⟨sent, by rw [Proc.run_bind_pure, hrun]; rfl, hsent⟩
  refuses version more hversion := by
    rw [Proc.run_bind_pure, h.refuses version more hversion]
    rfl
  silent := by
    rw [Proc.run_bind_pure, h.silent]
    rfl

end Exchange

end Rtmp.Handshake
