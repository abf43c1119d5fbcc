import Rtmp.Chunk.Loop

/-!
The invariant of the reader: no chunk stream ever buffers as much as the message it is reading is
long, and no message is longer than a header can say.

* `InState.WellFormed`, `ChunkReader.WellFormed`: the invariant;
* `wellFormed_new` and `readMessage_wellFormed`: it holds of a fresh reader and survives every read,
  also one that fails;
* `length_payload_lt`: a message that was read has a payload below `2^24`.
-/

namespace Rtmp

/-- The length came out of a 24-bit field, and a buffer in use is short of it. -/
structure InState.WellFormed (st : InState) : Prop where
  length_lt : st.msgLength.toNat < 2 ^ 24
  short : st.partialPayload ≠ [] → st.partialPayload.length < st.msgLength.toNat

lemma InState.WellFormed.length_le {st : InState} (h : st.WellFormed) :
    st.partialPayload.length ≤ st.msgLength.toNat := by
  by_cases hnil : st.partialPayload = []
  · rw [hnil]
    exact Nat.zero_le _
  · exact (h.short hnil).le

namespace ChunkReader

/-- Every chunk stream of the reader is well formed. -/
def WellFormed (r : ChunkReader) : Prop := ∀ k st, r.states k = some st → st.WellFormed

lemma wellFormed_new (es : List ReadEvent) : (new es).WellFormed := by
  intro k st h
  cases h

lemma WellFormed.setState {r : ChunkReader} {csid : UInt32} {st : InState} (h : r.WellFormed)
    (hst : st.WellFormed) : (r.setState csid st).WellFormed := by
  intro k st' hk
  by_cases hkc : k = csid
  · subst hkc
    rw [states_setState_self, Option.some.injEq] at hk
    exact hk ▸ hst
  · rw [states_setState_ne hkc] at hk
    exact h k st' hk

/-- Emptying a buffer keeps a state well formed. -/
lemma wellFormed_of_empty {st : InState} (hlen : st.msgLength.toNat < 2 ^ 24)
    (hnil : st.partialPayload = []) : st.WellFormed := ⟨hlen, fun h => absurd hnil h⟩

/-- An abort empties a buffer. -/
lemma WellFormed.abortPartial {r : ChunkReader} (h : r.WellFormed) (csid : UInt32) :
    (r.abortPartial csid).2.WellFormed := by
  rw [ChunkReader.abortPartial]
  rcases hst : r.states csid with _ | st
  · exact h
  · by_cases hnil : st.partialPayload ≠ []
    · simp only [if_pos hnil]
      exact h.setState (wellFormed_of_empty (h csid st hst).length_lt rfl)
    · simp only [if_neg hnil]
      exact h

/-! ### Each read keeps it -/

lemma readExactCounted_wellFormed (n : ℕ) :
    Eff.Triple WellFormed (readExactCounted n) (fun bs r => bs.length = n ∧ r.WellFormed)
      WellFormed := by
  intro r hr
  rw [run_readExactCounted]
  rcases hread : readExact n r.stream with ⟨_ | bs, rest⟩
  · exact hr
  · exact ⟨(readExact_eq_ok hread).1, hr⟩

lemma readU24Be_wellFormed :
    Eff.Triple WellFormed readU24Be (fun v r => v.toNat < 2 ^ 24 ∧ r.WellFormed) WellFormed := by
  refine (readExactCounted_wellFormed 3).bind fun bs => .pure fun r h => ⟨?_, h.2⟩
  rw [Bytes.u24_shift_or]
  exact lt_of_lt_of_eq (Bytes.ofBe_lt _) (by norm_num)

lemma readU32Be_wellFormed :
    Eff.Triple WellFormed readU32Be (fun _ => WellFormed) WellFormed :=
  (readExactCounted_wellFormed 4).bind fun _ => .pure fun _ h => h.2

lemma readU32LeStreamId_wellFormed :
    Eff.Triple WellFormed readU32LeStreamId (fun _ => WellFormed) WellFormed :=
  (readExactCounted_wellFormed 4).bind fun _ => .pure fun _ h => h.2

lemma readType_wellFormed : Eff.Triple WellFormed readType (fun _ => WellFormed) WellFormed :=
  (readExactCounted_wellFormed 1).bind fun _ => .pure fun _ h => h.2

lemma readCsid_wellFormed (low : UInt8) :
    Eff.Triple WellFormed (readCsid low) (fun _ => WellFormed) WellFormed :=
  .ite (fun _ => (readExactCounted_wellFormed 1).bind fun _ => .pure fun _ h => h.2) fun _ =>
    .ite (fun _ => (readExactCounted_wellFormed 2).bind fun _ => .pure fun _ h => h.2) fun _ =>
      .pure fun _ h => h

lemma readBasicHeader_wellFormed :
    Eff.Triple WellFormed readBasicHeader (fun _ => WellFormed) WellFormed :=
  (readExactCounted_wellFormed 1).bind fun _ =>
    ((readCsid_wellFormed _).weaken (fun _ h => h.2) fun _ _ h => h).bind fun _ =>
      .pure fun _ h => h

lemma readExtended_wellFormed (field : UInt32) :
    Eff.Triple WellFormed (readExtended field) (fun _ => WellFormed) WellFormed :=
  .ite (fun _ => readU32Be_wellFormed.bind fun _ => .pure fun _ h => h) fun _ => .pure fun _ h => h

lemma requireState_wellFormed (csid : UInt32) (text : String) :
    Eff.Triple WellFormed (requireState csid text) (fun st r => st.WellFormed ∧ r.WellFormed)
      WellFormed := by
  intro r hr
  rw [run_requireState]
  rcases hst : r.states csid with _ | st
  · exact hr
  · exact ⟨hr csid st hst, hr⟩

lemma setState_wellFormed (csid : UInt32) {st : InState} (h : st.WellFormed) :
    Eff.Triple WellFormed (Eff.modify (setState csid st) : ReaderM Unit) (fun _ => WellFormed)
      WellFormed :=
  .modify fun _ hr => hr.setState h

/-- A triple whose precondition carries a fact about values alone. -/
lemma wellFormed_of_fact {α : Type} {p : Prop} {x : ReaderM α} {Q : α → ChunkReader → Prop}
    (h : p → Eff.Triple WellFormed x Q WellFormed) :
    Eff.Triple (fun r => p ∧ r.WellFormed) x Q WellFormed :=
  fun r hr => h hr.1 r hr.2

lemma readFmt0Header_wellFormed (csid : UInt32) :
    Eff.Triple WellFormed (readFmt0Header csid) (fun _ => WellFormed) WellFormed := by
  refine readU24Be_wellFormed.bind fun ts => wellFormed_of_fact fun _ => ?_
  refine readU24Be_wellFormed.bind fun len => wellFormed_of_fact fun hlen => ?_
  refine readType_wellFormed.bind fun ty => readU32LeStreamId_wellFormed.bind fun sid => ?_
  refine (readExtended_wellFormed ts).bind fun ext => ?_
  refine Eff.Triple.bind (R := fun _ => WellFormed) (.gets fun _ h => h) fun st => ?_
  exact setState_wellFormed csid (wellFormed_of_empty hlen rfl)

lemma readFmt1Header_wellFormed (csid : UInt32) :
    Eff.Triple WellFormed (readFmt1Header csid) (fun _ => WellFormed) WellFormed := by
  refine readU24Be_wellFormed.bind fun delta => wellFormed_of_fact fun _ => ?_
  refine readU24Be_wellFormed.bind fun len => wellFormed_of_fact fun hlen => ?_
  refine readType_wellFormed.bind fun ty => (readExtended_wellFormed delta).bind fun ext => ?_
  refine (requireState_wellFormed csid _).bind fun st => wellFormed_of_fact fun _ => ?_
  exact setState_wellFormed csid (wellFormed_of_empty hlen rfl)

lemma readFmt2Header_wellFormed (csid : UInt32) :
    Eff.Triple WellFormed (readFmt2Header csid) (fun _ => WellFormed) WellFormed := by
  refine readU24Be_wellFormed.bind fun delta => wellFormed_of_fact fun _ => ?_
  refine (readExtended_wellFormed delta).bind fun ext => ?_
  refine (requireState_wellFormed csid _).bind fun st => wellFormed_of_fact fun hst => ?_
  exact setState_wellFormed csid (wellFormed_of_empty hst.length_lt rfl)

lemma readFmt3Header_wellFormed (csid : UInt32) :
    Eff.Triple WellFormed (readFmt3Header csid) (fun _ => WellFormed) WellFormed := by
  refine (requireState_wellFormed csid _).bind fun st => wellFormed_of_fact fun hst => ?_
  have hdup : Eff.Triple WellFormed (readRepeatedTs st.lastHadExtTs) (fun _ => WellFormed)
      WellFormed :=
    .ite (fun _ => readU32Be_wellFormed.bind fun _ => .pure fun _ h => h) fun _ =>
      .pure fun _ h => h
  refine hdup.bind fun _ => .ite (fun hnil => ?_) fun _ => .pure fun _ h => h
  exact setState_wellFormed csid (wellFormed_of_empty hst.length_lt hnil)

lemma readMessageHeader_wellFormed (fmt : UInt8) (csid : UInt32) :
    Eff.Triple WellFormed (readMessageHeader fmt csid) (fun _ => WellFormed) WellFormed :=
  .ite (fun _ => readFmt0Header_wellFormed csid) fun _ =>
    .ite (fun _ => readFmt1Header_wellFormed csid) fun _ =>
      .ite (fun _ => readFmt2Header_wellFormed csid) fun _ => readFmt3Header_wellFormed csid

/-- A payload read never overfills the buffer. -/
lemma readPayload_wellFormed (csid : UInt32) (fmt : UInt8) :
    Eff.Triple WellFormed (readPayload csid fmt)
      (fun out r => (∀ msg, out = some msg → msg.payload.length < 2 ^ 24) ∧ r.WellFormed)
      WellFormed := by
  refine (requireState_wellFormed csid _).bind fun st => wellFormed_of_fact fun hst => ?_
  refine Eff.Triple.bind (R := fun _ => WellFormed) (.gets fun _ h => h) fun size => ?_
  refine (readExactCounted_wellFormed _).bind fun buf => wellFormed_of_fact fun hbuf => ?_
  have hlt := hst.length_lt
  have hle := hst.length_le
  have hpayload : (st.partialPayload ++ buf).length ≤ st.msgLength.toNat := by
    rw [List.length_append, hbuf]
    omega
  refine .ite (fun _ => ?_) fun hmore => ?_
  · -- a whole message leaves nothing behind
    have hempty : ({ st with partialPayload := [] } : InState).WellFormed :=
      wellFormed_of_empty hlt rfl
    refine Eff.Triple.bind (setState_wellFormed csid hempty) fun _ => .pure fun r hr => ⟨?_, hr⟩
    rintro msg ⟨⟩
    exact hpayload.trans_lt hlt
  · -- one that is not whole is shorter than announced
    have hshort : (st.partialPayload ++ buf).length < st.msgLength.toNat := by
      rw [ge_iff_le, UInt32.le_iff_toNat_le, UInt32.toNat_ofNat'] at hmore
      omega
    have hfilled : ({ st with partialPayload := st.partialPayload ++ buf } : InState).WellFormed :=
      ⟨hlt, fun _ => hshort⟩
    refine Eff.Triple.bind (setState_wellFormed csid hfilled) fun _ => .pure fun r hr => ⟨?_, hr⟩
    rintro msg ⟨⟩

/-- **The invariant**, one chunk: it survives, and a completed message is short enough. -/
theorem readChunk_wellFormed :
    Eff.Triple WellFormed readChunk
      (fun out r => (∀ msg, out = some msg → msg.payload.length < 2 ^ 24) ∧ r.WellFormed)
      WellFormed :=
  readBasicHeader_wellFormed.bind fun _ =>
    (readMessageHeader_wellFormed _ _).bind fun _ => readPayload_wellFormed _ _

lemma readChunks_wellFormed (n : ℕ) :
    Eff.Triple WellFormed (readChunks n)
      (fun msg r => msg.payload.length < 2 ^ 24 ∧ r.WellFormed) WellFormed := by
  induction n with
  | zero => exact .fail fun _ h => h
  | succ n ih =>
      refine readChunk_wellFormed.bind fun out => wellFormed_of_fact fun hout => ?_
      cases out with
      | none => exact ih
      | some msg => exact .pure fun _ h => ⟨hout msg rfl, h⟩

/-- **The invariant**, one message: it survives every call of `read_message`. -/
theorem readMessage_wellFormed :
    Eff.Triple WellFormed readMessage
      (fun msg r => msg.payload.length < 2 ^ 24 ∧ r.WellFormed) WellFormed :=
  fun r hr => readChunks_wellFormed (r.stream.length + 1) r hr

/-- A message that was read has a payload below `2^24`. -/
lemma length_payload_lt {r r' : ChunkReader} {msg : Message} (hr : r.WellFormed)
    (h : readMessage.run r = (.ok msg, r')) : msg.payload.length < 2 ^ 24 :=
  (readMessage_wellFormed.ok hr h).1

end ChunkReader

end Rtmp
