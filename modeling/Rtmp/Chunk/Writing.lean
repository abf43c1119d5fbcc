import Rtmp.Chunk.Protocol
import Rtmp.Chunk.Writer

/-!
The writer is a legal sender.

* `messageEmissions`: the chunks of one message, for a header format already chosen;
  `sends_messageEmissions`: they are a legal run that completes exactly that message;
* `pickFmt_legal` and `planFor_realises`: the header decision of `write_message` is one the
  protocol allows, and leads to the registers of the protocol;
* `writeMessage_ok`: `write_message` on a legal chunk stream id emits those chunks and nothing else,
  and leaves the chunk stream's registers behind;
* `writeMessage_error`: on any other id it emits nothing.
-/

namespace Rtmp

/-! ### The chunks of one message -/

/-- The width of basic header the writer uses. -/
def BasicForm.of (csid : UInt32) : BasicForm :=
  if csid.toNat ≤ 63 then .one else if csid.toNat ≤ 319 then .two else .three

lemma BasicForm.of_carries {csid : UInt32} (hlo : 2 ≤ csid.toNat) (hhi : csid.toNat ≤ 65599) :
    (BasicForm.of csid).Carries csid := by
  rw [BasicForm.of]
  split_ifs with h63 h319
  · exact ⟨hlo, h63⟩
  · exact ⟨by omega, h319⟩
  · exact ⟨by omega, hhi⟩

/-- The format 3 chunks that carry `msg` from byte `sent` on. -/
def continuations (c : ℕ) (csid : UInt32) (form : BasicForm) (g : Registers) (msg : Message) :
    (rounds : ℕ) → (sent : ℕ) → List Emission
  | 0, _ => []
  | rounds + 1, sent =>
      if sent < msg.payload.length then
        emission c csid form .fmt3 g msg sent
          :: continuations c csid form g msg rounds (min (sent + c) msg.payload.length)
      else []

/-- The chunks of `msg`: a head of the given format and continuations. -/
def messageEmissions (c : ℕ) (csid : UInt32) (form : BasicForm) (fmt : ChunkFmt) (g : Registers)
    (msg : Message) : List Emission :=
  emission c csid form fmt g msg 0
    :: continuations c csid form g msg msg.payload.length (min c msg.payload.length)

lemma continuations_of_le {c : ℕ} {csid : UInt32} {form : BasicForm} {g : Registers}
    {msg : Message} {sent : ℕ} (rounds : ℕ) (h : msg.payload.length ≤ sent) :
    continuations c csid form g msg rounds sent = [] := by
  cases rounds with
  | zero => rfl
  | succ rounds => rw [continuations, if_neg (by omega)]

lemma sends_continuations {c : ℕ} {csid : UInt32} {form : BasicForm} {g : Registers}
    {msg : Message} (hc : 1 ≤ c) (hform : form.Carries csid) {rounds sent : ℕ}
    (hrounds : msg.payload.length ≤ sent + rounds) (hsent : sent < msg.payload.length) :
    Sends c csid (.busy g msg sent) [msg] (continuations c csid form g msg rounds sent)
      (.idle (some g)) := by
  induction rounds generalizing sent with
  | zero => omega
  | succ rounds ih =>
      rw [continuations, if_pos hsent]
      have hstep : Emits c csid (.busy g msg sent) (emission c csid form .fmt3 g msg sent)
          (.next c g msg sent) := .continuation hform
      -- the last chunk completes the message
      by_cases hdone : msg.payload.length ≤ sent + c
      · have hrest : continuations c csid form g msg rounds (min (sent + c) msg.payload.length)
            = [] := continuations_of_le _ (le_min hdone le_rfl)
        have hcomp : (emission c csid form .fmt3 g msg sent).completes = some msg := if_pos hdone
        rw [hrest]
        rw [Phase.next, if_pos hdone] at hstep
        have hrun := Sends.cons hstep .nil
        rw [hcomp] at hrun
        exact hrun
      · have hcomp : (emission c csid form .fmt3 g msg sent).completes = none := if_neg hdone
        rw [min_eq_left (by omega)]
        rw [Phase.next, if_neg hdone] at hstep
        have hrun := Sends.cons hstep (ih (by omega) (by omega))
        rw [hcomp] at hrun
        exact hrun

/-- The chunks of a message are a legal run that completes it. -/
theorem sends_messageEmissions {c : ℕ} {csid : UInt32} {form : BasicForm} {fmt : ChunkFmt}
    {prev : Option Registers} {msg : Message} (hc : 1 ≤ c) (hform : form.Carries csid)
    (hlen : msg.payload.length < 2 ^ 24) (hlegal : Legal prev msg fmt) :
    Sends c csid (.idle prev) [msg] (messageEmissions c csid form fmt (.after prev msg fmt) msg)
      (.idle (some (.after prev msg fmt))) := by
  set g := Registers.after prev msg fmt
  have hstep : Emits c csid (.idle prev) (emission c csid form fmt g msg 0) (.next c g msg 0) :=
    .head hform hlen hlegal
  rw [messageEmissions]
  -- either the first chunk holds it all, or the others follow
  by_cases hdone : msg.payload.length ≤ c
  · have hrest : continuations c csid form g msg msg.payload.length (min c msg.payload.length)
        = [] := continuations_of_le _ (le_min hdone le_rfl)
    have hcomp : (emission c csid form fmt g msg 0).completes = some msg :=
      if_pos (by rwa [Nat.zero_add])
    rw [hrest]
    rw [Phase.next, Nat.zero_add, if_pos hdone] at hstep
    have hrun := Sends.cons hstep .nil
    rw [hcomp] at hrun
    exact hrun
  · have hcomp : (emission c csid form fmt g msg 0).completes = none :=
      if_neg (by rwa [Nat.zero_add])
    rw [min_eq_left (by omega)]
    rw [Phase.next, Nat.zero_add, if_neg hdone] at hstep
    have hrun := Sends.cons hstep (sends_continuations (g := g) hc hform
      (show msg.payload.length ≤ c + msg.payload.length by omega) (by omega))
    rw [hcomp] at hrun
    exact hrun

/-! ### The bytes the writer emits -/

/-- The writer's state of a chunk stream with these registers. -/
def Registers.outState (g : Registers) : OutState where
  msgTypeId := g.msgTypeId
  msgStreamId := g.msgStreamId
  msgLength := g.msgLength
  timestamp := g.timestamp
  lastDelta := g.lastDelta
  lastHadExtTs := g.lastHadExtTs
  primed := true

/-- The registers a writer's state stands for; an unprimed state is as good as none. -/
def OutState.registers (st : OutState) : Option Registers :=
  if st.primed then
    some
      { msgTypeId := st.msgTypeId
        msgStreamId := st.msgStreamId
        msgLength := st.msgLength
        timestamp := st.timestamp
        lastDelta := st.lastDelta
        lastHadExtTs := st.lastHadExtTs }
  else none

@[simp] lemma registers_outState (g : Registers) : g.outState.registers = some g := rfl

lemma eq_outState_of_registers {st : OutState} {g : Registers} (h : st.registers = some g) :
    st = g.outState := by
  rcases st with ⟨_, _, _, _, _, _, _ | _⟩
  · cases h
  · cases h
    rfl

/-- The header decision is the one that leads to the registers `g` by a header of format `fmt`. -/
structure HeaderPlan.Realises (p : HeaderPlan) (msg : Message) (fmt : ChunkFmt) (g : Registers) :
    Prop where
  typeId : g.msgTypeId = msg.msgTypeId
  streamId : g.msgStreamId = msg.msgStreamId
  length : g.msgLength = UInt32.ofNat msg.payload.length
  timestamp : g.timestamp = msg.timestamp
  fmt_eq : p.fmt = fmt.bits
  fmt3Ext : p.fmt3Ext = g.lastHadExtTs
  extValue : p.extValue = g.lastDelta
  extTsNeeded : fmt ≠ .fmt3 → p.extTsNeeded = g.lastHadExtTs
  field : (if p.fmt = 0 then msg.timestamp else p.delta) = g.lastDelta

namespace ChunkWriter

section Emit

variable (w : ChunkWriter) (bs cs : List UInt8)

@[simp] lemma stream_emit : (w.emit bs).stream = w.stream ++ bs := rfl

@[simp] lemma chunkSize_emit : (w.emit bs).chunkSize = w.chunkSize := rfl

@[simp] lemma states_emit : (w.emit bs).states = w.states := rfl

@[simp] lemma emit_nil : w.emit [] = w := by
  simp [emit]

@[simp] lemma emit_emit : (w.emit bs).emit cs = w.emit (bs ++ cs) := by
  simp [emit]

lemma outState_emit (k : UInt32) : (w.emit bs).outState k = w.outState k := rfl

lemma outState_setState_self (k : UInt32) (st : OutState) : (w.setState k st).outState k = st := by
  simp [outState, setState]

lemma outState_setState_ne {k j : UInt32} (st : OutState) (h : j ≠ k) :
    (w.setState k st).outState j = w.outState j := by
  simp [outState, setState, Function.update_of_ne h]

@[simp] lemma run_writeAll : (writeAll bs).run w = (.ok (), w.emit bs) := rfl

end Emit

/-! #### The header decision -/

/-- The format the writer picks is one the protocol allows. -/
lemma pickFmt_legal (st : OutState) (msg : Message) :
    ∃ fmt : ChunkFmt, pickFmt st msg = fmt.bits ∧ Legal st.registers msg fmt := by
  rw [pickFmt]
  by_cases h0 : !st.primed ∨ st.msgStreamId ≠ msg.msgStreamId ∨ msg.timestamp < st.timestamp
  · rw [if_pos h0]
    exact ⟨.fmt0, rfl, trivial⟩
  · rw [if_neg h0]
    push Not at h0
    obtain ⟨hprimed, hsid, -⟩ := h0
    -- a primed stream has fields to leave out
    obtain ⟨g, hg⟩ : ∃ g, st.registers = some g := by
      rw [OutState.registers, if_pos (by simpa using hprimed)]
      exact ⟨_, rfl⟩
    obtain rfl := eq_outState_of_registers hg
    rw [registers_outState]
    by_cases h1 : g.outState.msgTypeId ≠ msg.msgTypeId
        ∨ g.outState.msgLength ≠ UInt32.ofNat msg.payload.length
    · rw [if_pos h1]
      exact ⟨.fmt1, rfl, g, rfl, hsid⟩
    · rw [if_neg h1]
      push Not at h1
      obtain ⟨htype, hlen⟩ := h1
      by_cases h3 : msg.timestamp - g.outState.timestamp = g.outState.lastDelta
      · rw [if_pos h3]
        exact ⟨.fmt3, rfl, g, rfl, hsid, htype, hlen, h3⟩
      · rw [if_neg h3]
        exact ⟨.fmt2, rfl, g, rfl, hsid, htype, hlen⟩

lemma marker_le_iff (v : UInt32) : v ≥ 0x00FFFFFF ↔ extendedMarker ≤ v.toNat := by
  rw [ge_iff_le, UInt32.le_iff_toNat_le]
  rfl

/-- For a legal format the plan leads to the registers of the protocol. -/
lemma planFor_realises {st : OutState} {msg : Message} {fmt : ChunkFmt}
    (hlegal : Legal st.registers msg fmt) :
    (planFor st msg fmt.bits).Realises msg fmt (.after st.registers msg fmt) := by
  cases fmt with
  | fmt0 => constructor <;> simp [planFor, Registers.after, Registers.carrying, ChunkFmt.bits,
      marker_le_iff]
  | fmt1 =>
      obtain ⟨g, hg, -⟩ := hlegal
      obtain rfl := eq_outState_of_registers hg
      rw [registers_outState]
      constructor <;> simp [planFor, Registers.after, Registers.carrying, ChunkFmt.bits,
        marker_le_iff, Registers.outState]
  | fmt2 =>
      obtain ⟨g, hg, -⟩ := hlegal
      obtain rfl := eq_outState_of_registers hg
      rw [registers_outState]
      constructor <;> simp [planFor, Registers.after, Registers.carrying, ChunkFmt.bits,
        marker_le_iff, Registers.outState]
  | fmt3 =>
      obtain ⟨g, hg, -, -, -, hdelta⟩ := hlegal
      obtain rfl := eq_outState_of_registers hg
      rw [registers_outState]
      constructor <;> simp [planFor, Registers.after, Registers.carrying, ChunkFmt.bits,
        Registers.outState, hdelta]

/-! #### One chunk -/

lemma run_writeBasicHeader {csid : UInt32} (fmt : ChunkFmt) (w : ChunkWriter)
    (hlo : 2 ≤ csid.toNat) (hhi : csid.toNat ≤ 65599) :
    (writeBasicHeader fmt.bits csid).run w
      = (.ok (), w.emit (basicHeader (.of csid) fmt csid)) := by
  have hle : ∀ a b : UInt32, a ≤ b ↔ a.toNat ≤ b.toNat := fun _ _ => UInt32.le_iff_toNat_le
  rw [writeBasicHeader, BasicForm.of]
  simp only [hle, UInt32.reduceToNat]
  by_cases h63 : csid.toNat ≤ 63
  · rw [if_pos ⟨hlo, h63⟩, if_pos h63]
    rfl
  · rw [if_neg (fun h => h63 h.2), if_neg h63]
    by_cases h319 : csid.toNat ≤ 319
    · rw [if_pos ⟨by omega, h319⟩, if_pos h319]
      rfl
    · have h16 : ((csid - 64).toUInt16).toNat = (csid - 64).toNat := by
        rw [UInt32.toNat_toUInt16, toNat_sub_64 (by omega)]
        omega
      rw [if_neg (fun h => h319 h.2), if_neg h319, if_pos ⟨by omega, hhi⟩, basicHeader, ← h16,
        ← Bytes.u16_le_bytes]
      rfl

/-- A 24-bit field is the value's three low bytes. -/
lemma run_writeU24Be (v : UInt32) (w : ChunkWriter) :
    (writeU24Be v).run w = (.ok (), w.emit (Bytes.toBe 3 v.toNat)) := by
  have hmask : (v &&& 0x00FFFFFF).toNat = v.toNat % 256 ^ 3 := by
    rw [UInt32.toNat_and]
    exact Nat.and_two_pow_sub_one_eq_mod v.toNat 24
  rw [writeU24Be, Bytes.u24_shift_bytes, hmask, Bytes.toBe_mod, run_writeAll]

/-- The timestamp field of a header, extended or not. -/
lemma run_writeTimestampField (g : Registers) (w : ChunkWriter) :
    (writeU24Be (if g.lastHadExtTs then 0x00FFFFFF else g.lastDelta)).run w
      = (.ok (), w.emit g.timestampField) := by
  rw [run_writeU24Be, Registers.timestampField]
  cases g.lastHadExtTs <;> rfl

/-- A format 3 chunk, head or continuation, repeats the registered extension. -/
lemma run_writeMessageHeader_fmt3 {p : HeaderPlan} {msg : Message} {fmt : ChunkFmt} {g : Registers}
    (w : ChunkWriter) (hp : p.Realises msg fmt g) :
    (writeMessageHeader p msg ChunkFmt.fmt3.bits).run w
      = (.ok (), w.emit (messageHeader .fmt3 g)) := by
  rw [writeMessageHeader, if_neg (by decide), if_neg (by decide), if_neg (by decide),
    run_writeAll, hp.fmt3Ext, hp.extValue]
  rfl

/-- The message header is the protocol's. -/
lemma run_writeMessageHeader {p : HeaderPlan} {msg : Message} {fmt : ChunkFmt} {g : Registers}
    (w : ChunkWriter) (hp : p.Realises msg fmt g) :
    (writeMessageHeader p msg fmt.bits).run w = (.ok (), w.emit (messageHeader fmt g)) := by
  have hfield := hp.field
  rw [hp.fmt_eq] at hfield
  have hext := hp.extTsNeeded
  -- each form leaves out one field more
  cases fmt with
  | fmt0 =>
      rw [writeMessageHeader, if_pos (by decide), hext (by decide),
        show msg.timestamp = g.lastDelta from hfield,
        Eff.run_bind_ok (run_writeTimestampField g w), Eff.run_bind_ok (run_writeU24Be _ _)]
      simp [writeAll, messageHeader, Registers.lengthAndType, Registers.extension, hp.typeId,
        hp.streamId, hp.length]
  | fmt1 =>
      rw [writeMessageHeader, if_neg (by decide), if_pos (by decide), hext (by decide),
        show p.delta = g.lastDelta from hfield,
        Eff.run_bind_ok (run_writeTimestampField g w), Eff.run_bind_ok (run_writeU24Be _ _)]
      simp [writeAll, messageHeader, Registers.lengthAndType, Registers.extension, hp.typeId,
        hp.length, hp.extValue]
  | fmt2 =>
      rw [writeMessageHeader, if_neg (by decide), if_neg (by decide), if_pos (by decide),
        hext (by decide), show p.delta = g.lastDelta from hfield,
        Eff.run_bind_ok (run_writeTimestampField g w)]
      simp [messageHeader, Registers.extension, hp.extValue]
  | fmt3 => exact run_writeMessageHeader_fmt3 w hp

/-! #### A whole message -/

section Message

variable {p : HeaderPlan} {msg : Message} {fmt : ChunkFmt} {g : Registers} {csid : UInt32}

/-- One round of the chunk loop. -/
lemma writeChunks_succ (hp : p.Realises msg fmt g) (hlo : 2 ≤ csid.toNat)
    (hhi : csid.toNat ≤ 65599) {rounds cursor : ℕ} {first : Bool} (w : ChunkWriter)
    (hgo : cursor < msg.payload.length ∨ !first) :
    (writeChunks csid p msg (rounds + 1) cursor first).run w
      = (writeChunks csid p msg rounds (min (cursor + w.chunkSize.val) msg.payload.length) true).run
          (w.emit (emission w.chunkSize.val csid (.of csid) (if first then .fmt3 else fmt) g msg
            cursor).chunk.wire) := by
  -- the slice of a chunk ends where the payload does
  have hdata : (msg.payload.drop cursor).take
      (min (cursor + w.chunkSize.val) msg.payload.length - cursor)
        = (msg.payload.drop cursor).take w.chunkSize.val := by
    by_cases hfull : cursor + w.chunkSize.val ≤ msg.payload.length
    · rw [min_eq_left hfull, Nat.add_sub_cancel_left]
    · rw [min_eq_right (by omega), List.take_of_length_le (by simp),
        List.take_of_length_le (by rw [List.length_drop]; omega)]
  rw [writeChunks, if_pos hgo]
  cases first with
  | false =>
      simp only [Bool.not_false, if_true, hp.fmt_eq]
      rw [Eff.run_bind_ok (run_writeBasicHeader fmt w hlo hhi),
        Eff.run_bind_ok (run_writeMessageHeader _ hp), Eff.run_gets_bind, chunkSize_emit,
        chunkSize_emit, Eff.run_bind_ok (run_writeAll _ _), hdata, emit_emit, emit_emit,
        ← List.append_assoc]
      rfl
  | true =>
      simp only [Bool.not_true, Bool.false_eq_true, if_false, if_true,
        show (3 : UInt8) = ChunkFmt.fmt3.bits from rfl]
      rw [Eff.run_bind_ok (run_writeBasicHeader .fmt3 w hlo hhi),
        Eff.run_bind_ok (run_writeMessageHeader_fmt3 _ hp), Eff.run_gets_bind, chunkSize_emit,
        chunkSize_emit, Eff.run_bind_ok (run_writeAll _ _), hdata, emit_emit, emit_emit,
        ← List.append_assoc]
      rfl

/-- The rounds after the first emit the continuations. -/
lemma writeChunks_continuations (hp : p.Realises msg fmt g) (hlo : 2 ≤ csid.toNat)
    (hhi : csid.toNat ≤ 65599) {rounds cursor : ℕ} (w : ChunkWriter) :
    (writeChunks csid p msg rounds cursor true).run w
      = (.ok (), w.emit (wireOf
          (continuations w.chunkSize.val csid (.of csid) g msg rounds cursor))) := by
  induction rounds generalizing cursor w with
  | zero => rw [writeChunks, continuations, wireOf_nil, emit_nil, Eff.run_pure]
  | succ rounds ih =>
      by_cases hgo : cursor < msg.payload.length
      · rw [writeChunks_succ hp hlo hhi w (.inl hgo), ih, continuations, if_pos hgo, wireOf_cons,
          emit_emit, chunkSize_emit, if_pos rfl]
      · rw [writeChunks, if_neg (by simpa using hgo), continuations, if_neg hgo, wireOf_nil,
          emit_nil, Eff.run_pure]

end Message

/-- **A message is its chunks**: on a legal chunk stream id `write_message` succeeds, emits the
chunks of the message under the header it picked, and leaves the chunk stream's registers behind. -/
theorem writeMessage_ok {w : ChunkWriter} {csid : UInt32} {msg : Message} {fmt : ChunkFmt}
    (hlo : 2 ≤ csid.toNat) (hhi : csid.toNat ≤ 65599)
    (hpick : pickFmt (w.outState csid) msg = fmt.bits)
    (hlegal : Legal (w.outState csid).registers msg fmt) :
    (writeMessage csid msg).run w
      = (.ok (), (w.setState csid
          (Registers.after (w.outState csid).registers msg fmt).outState).emit (wireOf
            (messageEmissions w.chunkSize.val csid (.of csid) fmt
              (.after (w.outState csid).registers msg fmt) msg))) := by
  have hp : (plan (w.outState csid) msg).Realises msg fmt
      (.after (w.outState csid).registers msg fmt) := by
    rw [plan, hpick]
    exact planFor_realises hlegal
  set g := Registers.after (w.outState csid).registers msg fmt
  have hchunks : (writeChunks csid (plan (w.outState csid) msg) msg (msg.payload.length + 1) 0
      false).run (w.setState csid (w.outState csid))
      = (.ok (), (w.setState csid (w.outState csid)).emit (wireOf
          (messageEmissions w.chunkSize.val csid (.of csid) fmt g msg))) := by
    rw [writeChunks_succ hp hlo hhi _ (.inr rfl), writeChunks_continuations hp hlo hhi, emit_emit,
      Nat.zero_add]
    rfl
  -- what is kept for the next header is what this one said
  have hcommit : committed (plan (w.outState csid) msg) msg = g.outState := by
    simp only [committed, Registers.outState, hp.typeId, hp.streamId, hp.length, hp.timestamp,
      hp.fmt3Ext, hp.field]
  rw [writeMessage, Eff.run_gets_bind, Eff.run_modify_bind]
  rw [Eff.run_bind_ok hchunks, Eff.run_modify, hcommit]
  simp [setState, emit]

/-- **Refusal**: on any other chunk stream id `write_message` fails before it emits anything; it
leaves an unprimed state behind. -/
theorem writeMessage_error {w : ChunkWriter} {csid : UInt32} (msg : Message)
    (hbad : ¬ (2 ≤ csid.toNat ∧ csid.toNat ≤ 65599)) :
    (writeMessage csid msg).run w
      = (.error (.protocolViolation s!"chunk stream id {csid} out of range"),
          w.setState csid (w.outState csid)) := by
  have hle : ∀ a b : UInt32, a ≤ b ↔ a.toNat ≤ b.toNat := fun _ _ => UInt32.le_iff_toNat_le
  have hrefuse : ∀ (fmt : UInt8) (w' : ChunkWriter), (writeBasicHeader fmt csid).run w'
      = (.error (.protocolViolation s!"chunk stream id {csid} out of range"), w') := by
    intro fmt w'
    rw [writeBasicHeader]
    simp only [hle, UInt32.reduceToNat]
    rw [if_neg (by omega), if_neg (by omega), if_neg (by omega)]
    rfl
  have hfirst : ∀ (p : HeaderPlan) (n : ℕ) (w' : ChunkWriter),
      (writeChunks csid p msg (n + 1) 0 false).run w'
        = (.error (.protocolViolation s!"chunk stream id {csid} out of range"), w') := by
    intro p n w'
    rw [writeChunks, if_pos (.inr rfl)]
    exact Eff.run_bind_error (hrefuse _ _)
  rw [writeMessage, Eff.run_gets_bind, Eff.run_modify_bind]
  exact Eff.run_bind_error (hfirst _ _ _)

end ChunkWriter

end Rtmp
