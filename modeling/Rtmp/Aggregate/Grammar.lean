import Rtmp.Aggregate

/-!
The grammar of the body of an aggregate.

* `AggregateFrame`: a header with any message stream id, a payload, and the back pointer they demand;
* `parseSub_frame`, `parseSub_eq_frame`: a frame is read as its message, and what is read is a frame;
* `parseAggregate_frames`, `parseAggregate_eq_ok`: so are frames in a row, and nothing else;
* `parseAggregate_grammar` (**grammar**): what is accepted, what it is read as, and what is packed is
  unpacked.
-/

namespace Rtmp

/-- A frame of the body of an aggregate, with its timestamp and its message stream id as they are on
the wire. -/
structure AggregateFrame where
  msgTypeId : UInt8
  wireTs : UInt32
  wireStreamId : List UInt8
  payload : List UInt8
  wireStreamId_length : wireStreamId.length = 3
  payload_lt : payload.length < 2 ^ 24

namespace AggregateFrame

def header (f : AggregateFrame) : List UInt8 :=
  f.msgTypeId :: (Bytes.toBe 3 f.payload.length
    ++ (Bytes.toBe 3 f.wireTs.toNat ++ (f.wireTs >>> 24).toUInt8 :: f.wireStreamId))

def bytes (f : AggregateFrame) : List UInt8 :=
  f.header ++ (f.payload ++ Bytes.toBe backPointerSize (subHeaderSize + f.payload.length))

/-- The message of a frame, on the stream of the aggregate and `shift` ahead of the wire. -/
def message (f : AggregateFrame) (msg : Message) (shift : UInt32) : Message where
  msgTypeId := f.msgTypeId
  msgStreamId := msg.msgStreamId
  timestamp := f.wireTs + shift
  payload := f.payload

lemma length_header (f : AggregateFrame) : f.header.length = subHeaderSize := by
  simp [header, f.wireStreamId_length, subHeaderSize]

lemma length_bytes (f : AggregateFrame) : f.bytes.length = f.payload.length + 15 := by
  simp [bytes, length_header, subHeaderSize, backPointerSize]
  omega

/-- The fields of a header are read back. -/
lemma subFields_header (f : AggregateFrame) :
    subFields f.header = (f.msgTypeId, f.payload.length, f.wireTs) := by
  have hbytes : Bytes.toBe 4 f.wireTs.toNat
      = (f.wireTs >>> 24).toUInt8 :: Bytes.toBe 3 f.wireTs.toNat := by
    have hhigh : (f.wireTs >>> 24).toUInt8 = UInt8.ofNat (f.wireTs.toNat / 256 ^ 3) := by
      apply UInt8.toNat_inj.mp
      rw [UInt32.toNat_toUInt8, UInt32.toNat_shiftRight, UInt8.toNat_ofNat', Nat.shiftRight_eq_div_pow]
      rfl
    rw [hhigh]
    rfl
  have hts : Bytes.ofBe ((f.wireTs >>> 24).toUInt8 :: Bytes.toBe 3 f.wireTs.toNat)
      = f.wireTs.toNat := by
    rw [← hbytes]
    exact Bytes.ofBe_toBe f.wireTs.toNat_lt
  have hsize : Bytes.ofBe (Bytes.toBe 3 f.payload.length) = f.payload.length :=
    Bytes.ofBe_toBe f.payload_lt
  refine Prod.ext rfl (Prod.ext hsize ?_)
  exact (congrArg UInt32.ofNat hts).trans UInt32.ofNat_toNat

/-- Eleven bytes in front of a payload of the length they say are the header of a frame. -/
lemma exists_header {header payload : List UInt8} (hlen : header.length = subHeaderSize)
    (hpayload : payload.length = (subFields header).2.1) :
    ∃ f : AggregateFrame, f.header = header ∧ f.payload = payload := by
  match header, hlen with
  | [b0, b1, b2, b3, b4, b5, b6, b7, b8, b9, b10], _ =>
      have hsize : payload.length = Bytes.ofBe [b1, b2, b3] := hpayload
      have hlt : payload.length < 2 ^ 24 :=
        hsize.trans_lt ((Bytes.ofBe_lt [b1, b2, b3]).trans_eq (by norm_num))
      have htsLt : Bytes.ofBe [b7, b4, b5, b6] < 2 ^ 32 :=
        (Bytes.ofBe_lt [b7, b4, b5, b6]).trans_eq (by norm_num)
      have hwire : (UInt32.ofNat (Bytes.ofBe [b7, b4, b5, b6])).toNat = Bytes.ofBe [b7, b4, b5, b6] :=
        UInt32.toNat_ofNat_of_lt' htsLt
      have hlow : Bytes.toBe 3 (Bytes.ofBe [b7, b4, b5, b6]) = [b4, b5, b6] :=
        (List.cons.inj (Bytes.toBe_ofBe [b7, b4, b5, b6])).2
      have hhigh : (UInt32.ofNat (Bytes.ofBe [b7, b4, b5, b6]) >>> 24).toUInt8 = b7 := by
        apply UInt8.toNat_inj.mp
        have hb : Bytes.ofBe [b7, b4, b5, b6] = b7.toNat * 256 ^ 3 + Bytes.ofBe [b4, b5, b6] := rfl
        have hrest : Bytes.ofBe [b4, b5, b6] < 256 ^ 3 := Bytes.ofBe_lt [b4, b5, b6]
        have h7 := b7.toNat_lt
        rw [UInt32.toNat_toUInt8, UInt32.toNat_shiftRight, hwire]
        change Bytes.ofBe [b7, b4, b5, b6] >>> 24 % 256 = _
        rw [Nat.shiftRight_eq_div_pow]
        omega
      refine ⟨⟨b0, UInt32.ofNat (Bytes.ofBe [b7, b4, b5, b6]), [b8, b9, b10], payload, rfl, hlt⟩,
        ?_, rfl⟩
      rw [AggregateFrame.header, hwire, hlow, hhigh, hsize]
      have hback : Bytes.toBe 3 (Bytes.ofBe [b1, b2, b3]) = [b1, b2, b3] := Bytes.toBe_ofBe [b1, b2, b3]
      rw [hback]
      rfl

end AggregateFrame

/-! ### One frame -/

section Frame

variable {msg sub : Message} {body rest : List UInt8} {offset : Option ℤ}

/-- A frame is read as its message, on the clock of the offset it finds or sets. -/
lemma parseSub_frame (f : AggregateFrame) :
    (parseSub msg).run (f.bytes ++ rest, offset)
      = (.ok (some (f.message msg (UInt32.ofInt (clockOffset msg f.wireTs offset)))),
        (rest, some (clockOffset msg f.wireTs offset))) := by
  have hleft : ¬ (f.bytes ++ rest).length = 0 := by
    rw [List.length_append, f.length_bytes]
    omega
  have hback : subHeaderSize + f.payload.length < 256 ^ backPointerSize := by
    have hlt := f.payload_lt
    rw [subHeaderSize, backPointerSize]
    omega
  rw [parseSub, Eff.run_gets_bind]
  simp only [if_neg hleft]
  rw [AggregateFrame.bytes, List.append_assoc, List.append_assoc,
    Eff.run_bind_ok (Eff.run_onFst (Scan.bytes_append f.length_header))]
  simp only [f.subFields_header]
  rw [Eff.run_bind_ok (Eff.run_onFst (Scan.bytes_append rfl)),
    Eff.run_bind_ok (Eff.run_onFst (Scan.uintBe_append hback))]
  simp only [ne_eq, not_true_eq_false, if_false]
  have hts : UInt32.ofInt (f.wireTs.toNat + clockOffset msg f.wireTs offset)
      = f.wireTs + UInt32.ofInt (clockOffset msg f.wireTs offset) := by
    rw [UInt32.ofInt_add]
    congr 1
    apply UInt32.toNat_inj.mp
    rw [UInt32.ofInt, UInt32.toNat_ofNat']
    have hlt := f.wireTs.toNat_lt
    omega
  rw [AggregateFrame.message, ← hts]
  rfl

/-- What is read off a body is a frame. -/
lemma parseSub_eq_frame {t : List UInt8 × Option ℤ}
    (h : (parseSub msg).run (body, offset) = (.ok (some sub), t)) :
    ∃ f : AggregateFrame, body = f.bytes ++ t.1 := by
  rw [parseSub, Eff.run_gets_bind] at h
  by_cases hleft : body.length = 0
  · simp only [if_pos hleft] at h
    cases h
  · simp only [if_neg hleft] at h
    obtain ⟨header, s₁, hheader, h⟩ := Eff.run_bind_eq_ok.mp h
    obtain ⟨payload, s₂, hpayload, h⟩ := Eff.run_bind_eq_ok.mp h
    obtain ⟨prev, s₃, hprev, h⟩ := Eff.run_bind_eq_ok.mp h
    obtain ⟨hlen, hbody⟩ := Scan.bytes_eq_ok.mp (Eff.run_onFst_eq_ok.mp hheader).1
    obtain ⟨hsize, hs₁⟩ := Scan.bytes_eq_ok.mp (Eff.run_onFst_eq_ok.mp hpayload).1
    obtain ⟨-, hs₂⟩ := Scan.uintBe_eq_ok.mp (Eff.run_onFst_eq_ok.mp hprev).1
    by_cases hback : prev ≠ subHeaderSize + (subFields header).2.1
    · simp only [if_pos hback] at h
      cases h
    · simp only [if_neg hback] at h
      cases h
      obtain ⟨f, rfl, rfl⟩ := AggregateFrame.exists_header hlen hsize
      refine ⟨f, ?_⟩
      rw [AggregateFrame.bytes, List.append_assoc, List.append_assoc, hsize, ← not_ne_iff.mp hback,
        ← hs₂, ← hs₁]
      exact hbody

/-- A body from which nothing is read is empty. -/
lemma parseSub_eq_none {t : List UInt8 × Option ℤ}
    (h : (parseSub msg).run (body, offset) = (.ok none, t)) : body = [] := by
  rw [parseSub, Eff.run_gets_bind] at h
  by_cases hleft : body.length = 0
  · exact List.eq_nil_of_length_eq_zero hleft
  · simp only [if_neg hleft] at h
    obtain ⟨header, s₁, -, h⟩ := Eff.run_bind_eq_ok.mp h
    obtain ⟨payload, s₂, -, h⟩ := Eff.run_bind_eq_ok.mp h
    obtain ⟨prev, s₃, -, h⟩ := Eff.run_bind_eq_ok.mp h
    by_cases hback : prev ≠ subHeaderSize + (subFields header).2.1
    · simp only [if_pos hback] at h
      cases h
    · simp only [if_neg hback] at h
      cases h

end Frame

/-! ### Frames in a row -/

section Frames

variable {msg : Message} {frames : List AggregateFrame}

/-- Once the clock is set, every frame is shifted by its offset. -/
lemma collects_frames (off : ℤ) :
    Eff.Collects (parseSub msg) (frames.flatMap AggregateFrame.bytes, some off)
      (frames.map fun f => f.message msg (UInt32.ofInt off)) ([], some off) := by
  induction frames with
  | nil => exact .done parseSub_nil
  | cons f frames ih => exact .more (parseSub_frame f) ih

/-- What the frames of an aggregate are shifted by: the first of them comes to stand at its
timestamp. -/
def aggregateShift (msg : Message) (frames : List AggregateFrame) : UInt32 :=
  msg.timestamp - (frames.head?.map AggregateFrame.wireTs).getD 0

/-- Frames in a row are unpacked. -/
theorem parseAggregate_frames (htype : msg.msgTypeId = msgAggregate)
    (hpayload : msg.payload = frames.flatMap AggregateFrame.bytes) :
    parseAggregate msg = .ok (frames.map fun f => f.message msg (aggregateShift msg frames)) := by
  have hlen : frames.length ≤ msg.payload.length := by
    rw [hpayload, List.length_flatMap]
    clear hpayload
    induction frames with
    | nil => exact Nat.le_refl 0
    | cons f frames ih =>
        rw [List.length_cons, List.map_cons, List.sum_cons, f.length_bytes]
        omega
  have hcollects : ∃ t, Eff.Collects (parseSub msg) (msg.payload, none)
      (frames.map fun f => f.message msg (aggregateShift msg frames)) t := by
    rw [hpayload]
    cases frames with
    | nil => exact ⟨_, .done parseSub_nil⟩
    | cons f frames =>
        have hshift : UInt32.ofInt (clockOffset msg f.wireTs none)
            = aggregateShift msg (f :: frames) := by
          have hnat : ∀ x : UInt32, UInt32.ofInt x.toNat = x := by
            intro x
            apply UInt32.toNat_inj.mp
            rw [UInt32.ofInt, UInt32.toNat_ofNat']
            have hlt := x.toNat_lt
            omega
          rw [clockOffset, Option.getD_none, sub_eq_add_neg, UInt32.ofInt_add, UInt32.ofInt_neg, hnat,
            hnat, ← UInt32.sub_eq_add_neg]
          rfl
        rw [← hshift]
        exact ⟨_, .more (parseSub_frame f) (collects_frames _)⟩
  obtain ⟨t, hcollects⟩ := hcollects
  rw [parseAggregate, if_neg (not_not_intro htype), hcollects.run]
  rw [List.length_map]
  exact Nat.lt_succ_of_le hlen

/-- What is unpacked is frames in a row. -/
theorem parseAggregate_eq_ok {subs : List Message} (h : parseAggregate msg = .ok subs) :
    ∃ frames : List AggregateFrame, msg.payload = frames.flatMap AggregateFrame.bytes := by
  have hrow : ∀ {s t : List UInt8 × Option ℤ}, Eff.Collects (parseSub msg) s subs t →
      ∃ frames : List AggregateFrame, s.1 = frames.flatMap AggregateFrame.bytes := by
    intro s t hcollects
    clear h
    induction hcollects with
    | done hnext => exact ⟨[], parseSub_eq_none hnext⟩
    | more hnext _ ih =>
        obtain ⟨f, hf⟩ := parseSub_eq_frame hnext
        obtain ⟨frames, hframes⟩ := ih
        exact ⟨f :: frames, by rw [List.flatMap_cons, ← hframes]; exact hf⟩
  rw [parseAggregate] at h
  split_ifs at h with htype
  have hrun : (Eff.collect (parseSub msg) (msg.payload.length + 1)).run (msg.payload, none)
      = (.ok subs, _) := Prod.ext h rfl
  have hshrinks : ∀ s s' a, (parseSub msg).run s = (.ok (some a), s') → s'.1.length < s.1.length := by
    intro s s' a hsub
    have hlen := parseSub_eq_some hsub
    omega
  exact hrow (Eff.collects_of_run (fun s => s.1.length) hshrinks (Nat.lt_succ_self _) hrun)

end Frames

/-- **Grammar**: an aggregate is accepted exactly when its body is frames in a row, and is read as one
message for each of them, on its stream and with the first of them at its timestamp; and messages of
less than 24 bits of size and 32 bits together come out as they were packed. -/
theorem parseAggregate_grammar :
    (∀ msg : Message, msg.msgTypeId = msgAggregate →
      ((∃ subs, parseAggregate msg = .ok subs) ↔
        ∃ frames : List AggregateFrame, msg.payload = frames.flatMap AggregateFrame.bytes) ∧
      ∀ frames : List AggregateFrame, msg.payload = frames.flatMap AggregateFrame.bytes →
        parseAggregate msg = .ok (frames.map fun f => f.message msg (aggregateShift msg frames))) ∧
    ∀ (streamId : UInt32) (subs : List Message), (∀ sub ∈ subs, sub.payload.length < 2 ^ 24) →
      bodyLength subs < 2 ^ 32 →
      ∃ agg, buildAggregate streamId subs = .ok agg ∧
        parseAggregate agg = .ok (subs.map fun sub => { sub with msgStreamId := streamId }) := by
  refine ⟨fun msg htype => ⟨⟨?_, ?_⟩, fun frames => parseAggregate_frames htype⟩, ?_⟩
  · rintro ⟨subs, hsubs⟩
    exact parseAggregate_eq_ok hsubs
  · rintro ⟨frames, hframes⟩
    exact ⟨_, parseAggregate_frames htype hframes⟩
  · intro streamId subs hsubs hlen
    obtain ⟨agg, hagg⟩ := (buildAggregate_eq_ok_iff hsubs).mpr hlen
    have hsid : agg.msgStreamId = streamId := by
      rw [buildAggregate] at hagg
      obtain ⟨body, -, hbody⟩ := Eff.except_bind_eq_ok.mp hagg
      cases hbody
      rfl
    refine ⟨agg, hagg, ?_⟩
    rw [parseAggregate_buildAggregate hagg, hsid]

/-- Two frames that wrap around the clock, and two messages of one aggregate. -/
theorem parseAggregate_grammar_wrapped :
    let f : AggregateFrame := ⟨8, 0xFFFFFFFF, [1, 2, 3], [0xAA], rfl, by decide⟩
    let g : AggregateFrame := ⟨9, 1, [0, 0, 0], [], rfl, by decide⟩
    let msg : Message := ⟨msgAggregate, 7, 5, f.bytes ++ g.bytes⟩
    parseAggregate msg = .ok [⟨8, 7, 5, [0xAA]⟩, ⟨9, 7, 7, []⟩] ∧
      ∃ agg, buildAggregate 3 [⟨8, 0, 5, [0xAA]⟩, ⟨9, 0, 4, []⟩] = .ok agg ∧
        parseAggregate agg = .ok [⟨8, 3, 5, [0xAA]⟩, ⟨9, 3, 4, []⟩] := by
  intro f g msg
  obtain ⟨hgrammar, hpacked⟩ := parseAggregate_grammar
  have hpayload : msg.payload = [f, g].flatMap AggregateFrame.bytes := by
    simp [msg]
  have hsubs : [f, g].map (fun frame => frame.message msg (aggregateShift msg [f, g]))
      = [⟨8, 7, 5, [0xAA]⟩, ⟨9, 7, 7, []⟩] := by
    decide
  refine ⟨hsubs ▸ (hgrammar msg rfl).2 [f, g] hpayload, hpacked 3 _ ?_ (by decide)⟩
  intro sub hsub
  rcases List.mem_pair.mp hsub with rfl | rfl <;> decide

end Rtmp
