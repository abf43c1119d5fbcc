import Rtmp.Message.Control
import Rtmp.Lib.Scan

/-!
Aggregate messages: several messages packed into the body of one, as the tags of a file are, each
with a header of eleven bytes and a back pointer.

* `parseAggregate` and `buildAggregate`;
* `parseAggregate_buildAggregate`: what was packed is unpacked, on the aggregate's message stream;
* `buildAggregate_eq_ok_iff`: what can be packed; `bodyLength_parseAggregate`: what was unpacked was
  in the body;
* `weight_parseAggregate`: the messages unpacked are smaller than the aggregate, so a queue of
  messages empties however aggregates are nested.
-/

namespace Rtmp

/-- The header of a message inside an aggregate. -/
def subHeaderSize : ℕ := 11

/-- The back pointer that follows it. -/
def backPointerSize : ℕ := 4

def ui24Max : ℕ := 0x00FFFFFF

/-- The header fields of a message inside an aggregate: its type, the length of its payload and its
timestamp, low bits first.  The message stream id is skipped. -/
def subFields (header : List UInt8) : UInt8 × ℕ × UInt32 :=
  (header.getD 0 0, Bytes.ofBe ((header.drop 1).take 3),
    UInt32.ofNat (Bytes.ofBe ((header.drop 7).take 1 ++ (header.drop 4).take 3)))

/-- The offset to the aggregate's clock: the one in force, or the one the first message sets. -/
def clockOffset (msg : Message) (wireTs : UInt32) (offset : Option ℤ) : ℤ :=
  offset.getD (msg.timestamp.toNat - wireTs.toNat)

/-- One message off the body of `msg`, if any is left. -/
def parseSub (msg : Message) : Eff Error (List UInt8 × Option ℤ) (Option Message) := do
  let left ← Eff.gets fun s => s.1.length
  if left = 0 then pure none
  else
    let header ← Eff.onFst (Scan.bytes subHeaderSize fun _ => .unexpectedEof)
    let (tagType, dataSize, wireTs) := subFields header
    let payload ← Eff.onFst (Scan.bytes dataSize fun _ => .unexpectedEof)
    let prevTagSize ← Eff.onFst (Scan.uintBe backPointerSize .unexpectedEof)
    let expected := subHeaderSize + dataSize
    if prevTagSize ≠ expected then
      Eff.fail (.invalidChunk
        s!"aggregate: back pointer {prevTagSize} != 11 + DataSize {expected} (§7.1.6 / §E.3)")
    else
      let off ← Eff.modifyGet fun s =>
        (clockOffset msg wireTs s.2, (s.1, some (clockOffset msg wireTs s.2)))
      pure (some
        { msgTypeId := tagType
          msgStreamId := msg.msgStreamId
          timestamp := UInt32.ofInt (wireTs.toNat + off)
          payload := payload })

/-- The messages of an aggregate. -/
def parseAggregate (msg : Message) : Except Error (List Message) :=
  if msg.msgTypeId ≠ msgAggregate then
    .error (.invalidChunk
      s!"aggregate: expected message type {msgAggregate}, got {msg.msgTypeId}")
  else ((Eff.collect (parseSub msg) (msg.payload.length + 1)).run (msg.payload, none)).1

/-- The bytes of one message inside an aggregate. -/
def subBytes (sub : Message) : List UInt8 :=
  [sub.msgTypeId] ++ Bytes.toBe 3 sub.payload.length ++ Bytes.toBe 3 sub.timestamp.toNat
    ++ [(sub.timestamp >>> 24).toUInt8] ++ [0, 0, 0] ++ sub.payload
    ++ Bytes.toBe backPointerSize (subHeaderSize + sub.payload.length)

/-- The body of an aggregate, on top of what is packed already. -/
def packSubs : (body : List UInt8) → List Message → Except Error (List UInt8)
  | body, [] => .ok body
  | body, sub :: subs =>
      if sub.payload.length > ui24Max then
        .error (.invalidChunk
          s!"aggregate: sub payload {sub.payload.length} exceeds UI24 max {ui24Max}")
      else if body.length + (subHeaderSize + sub.payload.length + backPointerSize) > 0xFFFFFFFF then
        .error (.invalidChunk "aggregate: cumulative body would exceed u32")
      else packSubs (body ++ subBytes sub) subs

/-- Pack messages into an aggregate on the clock of the first of them. -/
def buildAggregate (streamId : UInt32) (subs : List Message) : Except Error Message := do
  let body ← packSubs [] subs
  pure
    { msgTypeId := msgAggregate
      msgStreamId := streamId
      timestamp := (subs.head?.map (·.timestamp)).getD 0
      payload := body }

/-! ### Packing -/

@[simp] lemma length_subBytes (sub : Message) :
    (subBytes sub).length = sub.payload.length + 15 := by
  simp only [subBytes, List.length_append, Bytes.length_toBe, List.length_cons, List.length_nil,
    backPointerSize]
  omega

/-- The body of an aggregate is its messages in a row, and each of them fits its header. -/
lemma packSubs_eq_ok {subs : List Message} {body bs : List UInt8} (h : packSubs body subs = .ok bs) :
    bs = body ++ subs.flatMap subBytes ∧ ∀ sub ∈ subs, sub.payload.length < 2 ^ 24 := by
  induction subs generalizing body with
  | nil =>
      cases h
      simp
  | cons sub subs ih =>
      rw [packSubs] at h
      by_cases hlong : sub.payload.length > ui24Max
      · rw [if_pos hlong] at h
        cases h
      · by_cases hsum : body.length + (subHeaderSize + sub.payload.length + backPointerSize)
            > 0xFFFFFFFF
        · rw [if_neg hlong, if_pos hsum] at h
          cases h
        · rw [if_neg hlong, if_neg hsum] at h
          obtain ⟨rfl, hsubs⟩ := ih h
          refine ⟨by rw [List.flatMap_cons, List.append_assoc], ?_⟩
          intro s hs
          rcases List.mem_cons.mp hs with rfl | hs
          · rw [ui24Max] at hlong
            omega
          · exact hsubs s hs

/-! ### Unpacking -/

section Sub

variable {msg sub : Message} {rest : List UInt8} {offset : Option ℤ}

/-- The header of a packed message holds its type, its length and its timestamp. -/
lemma subFields_header (hlen : sub.payload.length < 2 ^ 24) :
    subFields ([sub.msgTypeId] ++ Bytes.toBe 3 sub.payload.length
        ++ Bytes.toBe 3 sub.timestamp.toNat ++ [(sub.timestamp >>> 24).toUInt8] ++ [0, 0, 0])
      = (sub.msgTypeId, sub.payload.length, sub.timestamp) := by
  have hts : Bytes.ofBe ([(sub.timestamp >>> 24).toUInt8] ++ Bytes.toBe 3 sub.timestamp.toNat)
      = sub.timestamp.toNat := by
    have hhigh : (sub.timestamp >>> 24).toUInt8 = UInt8.ofNat (sub.timestamp.toNat / 256 ^ 3) := by
      apply UInt8.toNat_inj.mp
      rw [UInt32.toNat_toUInt8, UInt32.toNat_shiftRight, UInt8.toNat_ofNat', Nat.shiftRight_eq_div_pow]
      rfl
    rw [hhigh]
    exact Bytes.ofBe_toBe (n := 4) sub.timestamp.toNat_lt
  have hsize : Bytes.ofBe (Bytes.toBe 3 sub.payload.length) = sub.payload.length :=
    Bytes.ofBe_toBe (by omega)
  refine Prod.ext rfl (Prod.ext hsize ?_)
  refine (congrArg UInt32.ofNat hts).trans ?_
  simp

/-- The first message of a body is unpacked, on the clock of the offset it finds or sets. -/
lemma parseSub_subBytes (hlen : sub.payload.length < 2 ^ 24) :
    (parseSub msg).run (subBytes sub ++ rest, offset)
      = (.ok (some
          { sub with
            msgStreamId := msg.msgStreamId
            timestamp := UInt32.ofInt (sub.timestamp.toNat + clockOffset msg sub.timestamp offset) }),
        (rest, some (clockOffset msg sub.timestamp offset))) := by
  have hleft : ¬ (subBytes sub ++ rest).length = 0 := by
    rw [List.length_append, length_subBytes]
    omega
  rw [parseSub, Eff.run_gets_bind]
  simp only [if_neg hleft]
  have hsplit : subBytes sub ++ rest
      = ([sub.msgTypeId] ++ Bytes.toBe 3 sub.payload.length ++ Bytes.toBe 3 sub.timestamp.toNat
          ++ [(sub.timestamp >>> 24).toUInt8] ++ [0, 0, 0])
        ++ (sub.payload ++ (Bytes.toBe backPointerSize (subHeaderSize + sub.payload.length)
          ++ rest)) := by
    simp only [subBytes, List.append_assoc]
  rw [hsplit, Eff.run_bind_ok (Eff.run_onFst (Scan.bytes_append (by
    simp only [List.length_append, Bytes.length_toBe, List.length_cons, List.length_nil]; rfl)))]
  simp only [subFields_header hlen]
  rw [Eff.run_bind_ok (Eff.run_onFst (Scan.bytes_append rfl)),
    Eff.run_bind_ok (Eff.run_onFst (Scan.uintBe_append (by
      rw [subHeaderSize, backPointerSize]; omega)))]
  simp only [ne_eq, not_true_eq_false, if_false]
  rfl

/-- A message that was unpacked took its fifteen bytes and its payload. -/
lemma parseSub_eq_some {s t : List UInt8 × Option ℤ}
    (h : (parseSub msg).run s = (.ok (some sub), t)) :
    s.1.length = t.1.length + (sub.payload.length + 15) := by
  rw [parseSub, Eff.run_gets_bind] at h
  by_cases hleft : s.1.length = 0
  · simp only [if_pos hleft] at h
    cases h
  · simp only [if_neg hleft] at h
    obtain ⟨header, s₁, hheader, h⟩ := Eff.run_bind_eq_ok.mp h
    obtain ⟨payload, s₂, hpayload, h⟩ := Eff.run_bind_eq_ok.mp h
    obtain ⟨prev, s₃, hprev, h⟩ := Eff.run_bind_eq_ok.mp h
    obtain ⟨hlen₁, hs⟩ := Scan.bytes_eq_ok.mp (Eff.run_onFst_eq_ok.mp hheader).1
    obtain ⟨hlen₂, hs₁⟩ := Scan.bytes_eq_ok.mp (Eff.run_onFst_eq_ok.mp hpayload).1
    obtain ⟨-, hs₂⟩ := Scan.uintBe_eq_ok.mp (Eff.run_onFst_eq_ok.mp hprev).1
    by_cases hback : prev ≠ subHeaderSize + (subFields header).2.1
    · simp only [if_pos hback] at h
      cases h
    · simp only [if_neg hback] at h
      cases h
      rw [hs, hs₁, hs₂]
      simp only [List.length_append, Bytes.length_toBe, hlen₁, backPointerSize, subHeaderSize]
      omega

/-- Nothing is unpacked from an empty body alone. -/
lemma parseSub_nil : (parseSub msg).run ([], offset) = (.ok none, ([], offset)) := rfl

end Sub

/-- Once the clock is set without an offset, the rest of a body is unpacked as it was packed. -/
lemma collects_parseSub {msg : Message} {subs : List Message}
    (hsubs : ∀ sub ∈ subs, sub.payload.length < 2 ^ 24) {offset : Option ℤ}
    (hoff : ∀ sub, subs.head? = some sub → clockOffset msg sub.timestamp offset = 0) :
    ∃ t, Eff.Collects (parseSub msg) (subs.flatMap subBytes, offset)
      (subs.map fun sub => { sub with msgStreamId := msg.msgStreamId }) t := by
  induction subs generalizing offset with
  | nil => exact ⟨_, .done parseSub_nil⟩
  | cons sub subs ih =>
      have hfirst := hoff sub rfl
      have hsub := @parseSub_subBytes msg sub (subs.flatMap subBytes) offset
        (hsubs sub (List.mem_cons_self ..))
      have hts : UInt32.ofInt (sub.timestamp.toNat + 0) = sub.timestamp := by
        apply UInt32.toNat_inj.mp
        rw [add_zero, UInt32.ofInt, UInt32.toNat_ofNat']
        have hlt := sub.timestamp.toNat_lt
        omega
      rw [hfirst, hts] at hsub
      obtain ⟨t, hrest⟩ := @ih (fun s hs => hsubs s (List.mem_cons_of_mem _ hs)) (some 0)
        fun _ _ => rfl
      exact ⟨t, .more hsub hrest⟩

/-- An aggregate that was moved to another message stream takes its messages along. -/
theorem parseAggregate_moved {streamId : UInt32} {subs : List Message} {agg : Message}
    (h : buildAggregate streamId subs = .ok agg) (sid : UInt32) :
    parseAggregate { agg with msgStreamId := sid }
      = .ok (subs.map fun sub => { sub with msgStreamId := sid }) := by
  rw [buildAggregate] at h
  cases hpack : packSubs [] subs with
  | error e =>
      rw [hpack] at h
      cases h
  | ok body =>
      rw [hpack] at h
      cases h
      obtain ⟨rfl, hsubs⟩ := packSubs_eq_ok hpack
      rw [List.nil_append] at *
      rw [parseAggregate, if_neg (not_not.mpr rfl)]
      have hoff : ∀ sub, subs.head? = some sub →
          clockOffset ⟨msgAggregate, sid, (subs.head?.map (·.timestamp)).getD 0,
            subs.flatMap subBytes⟩ sub.timestamp none = 0 := by
        intro sub hhead
        rw [clockOffset, hhead]
        exact sub_self _
      obtain ⟨t, hrun⟩ := collects_parseSub hsubs hoff
      rw [hrun.run ?_]
      rw [List.length_map]
      have hle : subs.length ≤ (subs.flatMap subBytes).length := by
        rw [List.length_flatMap]
        refine le_trans (le_of_eq (by simp)) (List.sum_le_sum (f := fun _ => 1) fun s _ => ?_)
        simp
      exact Nat.lt_succ_of_le hle

/-- **Aggregates keep what they carry**: the messages that were packed come out again, in order and
at their times, on the message stream of the aggregate. -/
theorem parseAggregate_buildAggregate {streamId : UInt32} {subs : List Message} {agg : Message}
    (h : buildAggregate streamId subs = .ok agg) :
    parseAggregate agg = .ok (subs.map fun sub => { sub with msgStreamId := agg.msgStreamId }) :=
  parseAggregate_moved h agg.msgStreamId

/-! ### The size of what is unpacked -/

/-- What a queued message may still unfold into. -/
def weight (queue : List Message) : ℕ := (queue.map fun msg => msg.payload.length + 1).sum

@[simp] lemma weight_nil : weight [] = 0 := rfl

@[simp] lemma weight_cons (msg : Message) (queue : List Message) :
    weight (msg :: queue) = msg.payload.length + 1 + weight queue := by
  simp [weight]

@[simp] lemma weight_append (queue subs : List Message) :
    weight (queue ++ subs) = weight queue + weight subs := by
  simp [weight]

/-- How many bytes messages take in the body of an aggregate. -/
def bodyLength (subs : List Message) : ℕ := (subs.map fun sub => sub.payload.length + 15).sum

@[simp] lemma bodyLength_nil : bodyLength [] = 0 := rfl

@[simp] lemma bodyLength_cons (sub : Message) (subs : List Message) :
    bodyLength (sub :: subs) = sub.payload.length + 15 + bodyLength subs := by
  simp [bodyLength]

@[simp] lemma bodyLength_append (subs subs' : List Message) :
    bodyLength (subs ++ subs') = bodyLength subs + bodyLength subs' := by
  simp [bodyLength]

lemma length_flatMap_subBytes (subs : List Message) :
    (subs.flatMap subBytes).length = bodyLength subs := by
  induction subs with
  | nil => rfl
  | cons sub subs ih => rw [List.flatMap_cons, List.length_append, length_subBytes, ih, bodyLength_cons]

lemma weight_le_bodyLength (subs : List Message) : weight subs ≤ bodyLength subs := by
  induction subs with
  | nil => exact le_refl _
  | cons sub subs ih =>
      rw [weight_cons, bodyLength_cons]
      omega

lemma bodyLength_collects {msg : Message} {s t : List UInt8 × Option ℤ} {subs : List Message}
    (h : Eff.Collects (parseSub msg) s subs t) : bodyLength subs ≤ s.1.length := by
  induction h with
  | done => exact Nat.zero_le _
  | more hsub _ ih =>
      have hlen := parseSub_eq_some hsub
      rw [bodyLength_cons]
      omega

/-- What is unpacked was in the body. -/
theorem bodyLength_parseAggregate {msg : Message} {subs : List Message}
    (h : parseAggregate msg = .ok subs) : bodyLength subs ≤ msg.payload.length := by
  rw [parseAggregate] at h
  by_cases htype : msg.msgTypeId ≠ msgAggregate
  · rw [if_pos htype] at h
    cases h
  · rw [if_neg htype] at h
    rcases hrun : (Eff.collect (parseSub msg) (msg.payload.length + 1)).run (msg.payload, none)
      with ⟨out, t⟩
    rw [hrun] at h
    simp only at h
    subst h
    have hshrinks : ∀ s s' a, (parseSub msg).run s = (.ok (some a), s') →
        s'.1.length < s.1.length := fun s s' a hsub => by
      have hlen := parseSub_eq_some hsub
      omega
    exact bodyLength_collects
      (Eff.collects_of_run (fun s => s.1.length) hshrinks (Nat.lt_succ_self _) hrun)

/-- **Unpacking shrinks**: the messages of an aggregate weigh less than it does. -/
theorem weight_parseAggregate {msg : Message} {subs : List Message}
    (h : parseAggregate msg = .ok subs) : weight subs < msg.payload.length + 1 :=
  Nat.lt_succ_of_le ((weight_le_bodyLength subs).trans (bodyLength_parseAggregate h))

/-- Messages that each fit their header are packed as long as the body has a 32-bit length. -/
lemma packSubs_eq_ok_iff {subs : List Message} (hsubs : ∀ sub ∈ subs, sub.payload.length < 2 ^ 24)
    {body : List UInt8} (hbody : body.length < 2 ^ 32) :
    (∃ bs, packSubs body subs = .ok bs) ↔ body.length + bodyLength subs < 2 ^ 32 := by
  induction subs generalizing body with
  | nil => exact iff_of_true ⟨body, rfl⟩ hbody
  | cons sub subs ih =>
      have hsub := hsubs sub List.mem_cons_self
      have hshort : ¬ sub.payload.length > ui24Max := by
        rw [ui24Max]
        omega
      rw [packSubs, if_neg hshort, bodyLength_cons]
      by_cases hsum : body.length + (subHeaderSize + sub.payload.length + backPointerSize)
          > 0xFFFFFFFF
      · rw [if_pos hsum]
        rw [subHeaderSize, backPointerSize] at hsum
        refine iff_of_false ?_ (by omega)
        rintro ⟨bs, hbs⟩
        cases hbs
      · rw [if_neg hsum]
        rw [subHeaderSize, backPointerSize] at hsum
        have hlen : (body ++ subBytes sub).length = body.length + (sub.payload.length + 15) := by
          rw [List.length_append, length_subBytes]
        rw [ih (fun s hs => hsubs s (List.mem_cons_of_mem _ hs)) (by omega), hlen]
        omega

/-- **What can be packed**: messages that each fit their header, up to a 32-bit length. -/
theorem buildAggregate_eq_ok_iff {streamId : UInt32} {subs : List Message}
    (hsubs : ∀ sub ∈ subs, sub.payload.length < 2 ^ 24) :
    (∃ agg, buildAggregate streamId subs = .ok agg) ↔ bodyLength subs < 2 ^ 32 := by
  have hnil : ([] : List UInt8).length < 2 ^ 32 := by norm_num
  have hpack := packSubs_eq_ok_iff hsubs hnil
  rw [List.length_nil, Nat.zero_add] at hpack
  rw [← hpack, buildAggregate]
  cases packSubs [] subs with
  | error e =>
      refine iff_of_false ?_ ?_
      · rintro ⟨agg, hagg⟩
        cases hagg
      · rintro ⟨bs, hbs⟩
        cases hbs
  | ok body => exact iff_of_true ⟨_, rfl⟩ ⟨body, rfl⟩

/-- The body of an aggregate is as long as what it holds. -/
lemma length_payload_buildAggregate {streamId : UInt32} {subs : List Message} {agg : Message}
    (h : buildAggregate streamId subs = .ok agg) : agg.payload.length = bodyLength subs := by
  rw [buildAggregate] at h
  cases hpack : packSubs [] subs with
  | error e =>
      rw [hpack] at h
      cases h
  | ok body =>
      rw [hpack] at h
      cases h
      obtain ⟨rfl, -⟩ := packSubs_eq_ok hpack
      rw [List.nil_append, length_flatMap_subBytes]

end Rtmp
