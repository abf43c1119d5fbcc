import Rtmp.Chunk.Loop
import Rtmp.Chunk.Protocol

/-!
The reader reassembles whatever a legal sender interleaves.

* `Phase.Tracked`: the reader's state of one chunk stream agrees with the sender's phase;
* `readChunk_emits`: reading one legal chunk of a tracked chunk stream yields the message the chunk
  completes and leaves the chunk stream tracked, whatever the other chunk streams are doing;
* `readMessages_schedule`: reading a whole schedule returns the completed messages in order;
* `read_interleaved` (**reassembly**): any interleaving of legal runs is reassembled exactly.
-/

namespace Rtmp

/-- The reader's state of a chunk stream with these registers and this much payload buffered. -/
def Registers.inState (g : Registers) (partialPayload : List UInt8) : InState where
  msgTypeId := g.msgTypeId
  msgStreamId := g.msgStreamId
  msgLength := g.msgLength
  timestamp := g.timestamp
  lastDelta := g.lastDelta
  lastHadExtTs := g.lastHadExtTs
  partialPayload := partialPayload

/-- The registers are those of a chunk that carries `msg`. -/
structure Registers.Describes (g : Registers) (msg : Message) : Prop where
  typeId : g.msgTypeId = msg.msgTypeId
  streamId : g.msgStreamId = msg.msgStreamId
  length : g.msgLength = UInt32.ofNat msg.payload.length
  timestamp : g.timestamp = msg.timestamp
  fits : msg.payload.length < 2 ^ 24

/-- The reader's state of one chunk stream agrees with the sender's phase.  Before its first
header the reader may remember anything, since that header has format 0. -/
def Phase.Tracked : Phase → Option InState → Prop
  | .idle none, _ => True
  | .idle (some g), st => st = some (g.inState [])
  | .busy g msg sent, st =>
      st = some (g.inState (msg.payload.take sent)) ∧ g.Describes msg ∧ 0 < sent ∧
        sent < msg.payload.length

namespace Registers

lemma after_describes (prev : Option Registers) {msg : Message} (fmt : ChunkFmt)
    (h : msg.payload.length < 2 ^ 24) : (after prev msg fmt).Describes msg := by
  cases fmt <;> exact ⟨rfl, rfl, rfl, rfl, h⟩

namespace Describes

variable {g : Registers} {msg : Message} (h : g.Describes msg)

include h

lemma length_toNat : g.msgLength.toNat = msg.payload.length := by
  have hfits := h.fits
  rw [h.length, UInt32.toNat_ofNat']
  omega

lemma length_lt : g.msgLength.toNat < 2 ^ 24 := by
  rw [h.length_toNat]
  exact h.fits

end Describes

end Registers

namespace ChunkReader

variable {r : ChunkReader} {es : List ReadEvent}

/-! ### Reading one header -/

/-- The one-byte form packs the format above a six-bit id. -/
lemma packed_fmt (fmt : ChunkFmt) : ∀ n < 64,
    (((fmt.bits <<< 6) ||| UInt8.ofNat n) >>> 6) &&& 0x03 = fmt.bits ∧
      ((fmt.bits <<< 6) ||| UInt8.ofNat n) &&& 0x3F = UInt8.ofNat n := by
  cases fmt <;> decide

/-- The first byte of a basic header, and then the rest of it. -/
lemma readBasicHeader_of_csid {fmt : ChunkFmt} {csid : UInt32} {n m : ℕ} {fs : List ReadEvent}
    (hn : n < 64) (h : r.stream = .byte ((fmt.bits <<< 6) ||| UInt8.ofNat n) :: fs)
    (hcsid : (readCsid (UInt8.ofNat n)).run (r.advance 1 fs)
      = (.ok csid, (r.advance 1 fs).advance m es)) :
    readBasicHeader.run r = (.ok (csid, fmt.bits), r.advance (1 + m) es) := by
  obtain ⟨hfmt, hlow⟩ := packed_fmt fmt n hn
  rw [readBasicHeader, Eff.run_bind_ok (readExactCounted_bytes
    [(fmt.bits <<< 6) ||| UInt8.ofNat n] (n := 1) rfl h)]
  simp only [List.getD_cons_zero, hfmt, hlow]
  rw [Eff.run_bind_ok hcsid, advance_advance]
  rfl

/-- A basic header of any width gives back the chunk stream id and the format. -/
lemma readBasicHeader_bytes {form : BasicForm} {fmt : ChunkFmt} {csid : UInt32}
    (hform : form.Carries csid) (h : r.stream = ReadEvent.bytes (basicHeader form fmt csid) ++ es) :
    readBasicHeader.run r
      = (.ok (csid, fmt.bits), r.advance (basicHeader form fmt csid).length es) := by
  cases form with
  | one =>
      obtain ⟨hlo, hhi⟩ := hform
      have hbyte : csid.toUInt8 = UInt8.ofNat csid.toNat := by
        apply UInt8.toNat_inj.mp
        simp
      have hnat : (UInt8.ofNat csid.toNat).toNat = csid.toNat := by
        rw [UInt8.toNat_ofNat']
        omega
      -- zero and one would announce the longer forms
      have h0 : UInt8.ofNat csid.toNat ≠ 0 := by
        intro h0
        rw [h0, UInt8.toNat_zero] at hnat
        omega
      have h1 : UInt8.ofNat csid.toNat ≠ 1 := by
        intro h1
        rw [h1, UInt8.toNat_one] at hnat
        omega
      have hid : (UInt8.ofNat csid.toNat).toUInt32 = csid := by
        apply UInt32.toNat_inj.mp
        rw [UInt8.toNat_toUInt32, hnat]
      rw [basicHeader, hbyte] at h
      refine readBasicHeader_of_csid (m := 0) (by omega) h ?_
      rw [readCsid, if_neg h0, if_neg h1, hid, Eff.run_pure]
      exact congrArg _ (advance_zero (r := r.advance 1 es)).symm
  | two =>
      obtain ⟨hlo, hhi⟩ := hform
      have hid : (csid - 64).toUInt8.toUInt32 + 64 = csid := by
        apply UInt32.toNat_inj.mp
        rw [UInt32.toNat_add, UInt8.toNat_toUInt32, UInt32.toNat_toUInt8, toNat_sub_64 hlo,
          show (64 : UInt32).toNat = 64 from rfl]
        omega
      have h1 : r.stream = .byte ((fmt.bits <<< 6) ||| UInt8.ofNat 0)
          :: .byte (csid - 64).toUInt8 :: es := by
        rw [show UInt8.ofNat 0 = 0 from rfl, UInt8.or_zero]
        exact h
      refine readBasicHeader_of_csid (m := 1) (by omega) h1 ?_
      rw [readCsid, if_pos (by decide), Eff.run_bind_ok (readExactCounted_bytes
        [(csid - 64).toUInt8] (n := 1) rfl rfl), List.getD_cons_zero, hid]
      rfl
  | three =>
      obtain ⟨hlo, hhi⟩ := hform
      -- the two bytes are the id above 64, low byte first
      have hid : ((Bytes.toLe 2 (csid - 64).toNat).getD 0 0).toUInt32
          + ((Bytes.toLe 2 (csid - 64).toNat).getD 1 0).toUInt32 * 256 + 64 = csid := by
        obtain ⟨a, b, hab⟩ : ∃ a b, Bytes.toLe 2 (csid - 64).toNat = [a, b] := ⟨_, _, rfl⟩
        have hval := Bytes.ofLe_toLe (n := 2) (v := (csid - 64).toNat)
          (by rw [toNat_sub_64 hlo]; omega)
        rw [hab, toNat_sub_64 hlo] at hval
        have hb := b.toNat_lt
        simp only [Bytes.ofLe, List.reverse_cons, List.reverse_nil, List.nil_append,
          List.cons_append, Bytes.ofBe, List.length_cons, List.length_nil] at hval
        rw [hab]
        apply UInt32.toNat_inj.mp
        simp only [List.getD_cons_zero, List.getD_cons_succ]
        rw [UInt32.toNat_add, UInt32.toNat_add, UInt32.toNat_mul, UInt8.toNat_toUInt32,
          UInt8.toNat_toUInt32, show (64 : UInt32).toNat = 64 from rfl,
          show (256 : UInt32).toNat = 256 from rfl]
        omega
      refine readBasicHeader_of_csid (m := 2) (n := 1) (by omega) h ?_
      rw [readCsid, if_neg (by decide), if_pos (by decide),
        Eff.run_bind_ok (readExactCounted_bytes _ (Bytes.length_toLe 2 _) rfl), hid]
      rfl

/-- The 24-bit field of `Registers.timestampField`, as a number. -/
lemma readU24Be_timestampField {g : Registers}
    (hext : g.lastHadExtTs = decide (extendedMarker ≤ g.lastDelta.toNat))
    (h : r.stream = ReadEvent.bytes g.timestampField ++ es) :
    readU24Be.run r = (.ok (if g.lastHadExtTs then 0x00FFFFFF else g.lastDelta), r.advance 3 es) := by
  by_cases hbig : extendedMarker ≤ g.lastDelta.toNat
  · rw [Registers.timestampField, hext, decide_eq_true hbig, if_pos rfl] at h
    rw [readU24Be_bytes (by decide) h, hext, decide_eq_true hbig, if_pos rfl]
    rfl
  · rw [Registers.timestampField, hext, decide_eq_false hbig, if_neg Bool.false_ne_true] at h
    rw [extendedMarker] at hbig
    rw [readU24Be_bytes (by omega) h, hext, decide_eq_false (by rw [extendedMarker]; omega),
      if_neg Bool.false_ne_true, UInt32.ofNat_toNat]

/-- The extension is read exactly when the field is the marker. -/
lemma readExtended_extension {g : Registers}
    (hext : g.lastHadExtTs = decide (extendedMarker ≤ g.lastDelta.toNat))
    (h : r.stream = ReadEvent.bytes g.extension ++ es) :
    (readExtended (if g.lastHadExtTs then 0x00FFFFFF else g.lastDelta)).run r
      = (.ok (g.lastDelta, g.lastHadExtTs), r.advance g.extension.length es) := by
  rw [readExtended]
  by_cases hbig : extendedMarker ≤ g.lastDelta.toNat
  · have ht : g.lastHadExtTs = true := hext.trans (decide_eq_true hbig)
    rw [Registers.extension, ht, if_pos rfl] at h
    rw [Registers.extension, ht, if_pos rfl, if_pos rfl, if_pos rfl,
      Eff.run_bind_ok (readU32Be_bytes h), Bytes.length_toBe]
    rfl
  · have hf : g.lastHadExtTs = false := hext.trans (decide_eq_false hbig)
    rw [Registers.extension, hf, if_neg Bool.false_ne_true, ReadEvent.bytes_nil,
      List.nil_append] at h
    subst h
    have hne : g.lastDelta ≠ 0x00FFFFFF := by
      intro he
      rw [he] at hbig
      exact hbig (by decide)
    rw [Registers.extension, hf, if_neg Bool.false_ne_true, if_neg Bool.false_ne_true, if_neg hne,
      Eff.run_pure, List.length_nil, advance_zero]

lemma readFmt0Header_bytes {g : Registers} {csid : UInt32} (hlen : g.msgLength.toNat < 2 ^ 24)
    (hext : g.lastHadExtTs = decide (extendedMarker ≤ g.lastDelta.toNat))
    (hts : g.timestamp = g.lastDelta)
    (h : r.stream = ReadEvent.bytes (messageHeader .fmt0 g) ++ es) :
    (readFmt0Header csid).run r
      = (.ok (), (r.setState csid (g.inState [])).advance (messageHeader .fmt0 g).length es) := by
  simp only [messageHeader, Registers.lengthAndType, ReadEvent.bytes_append, List.append_assoc,
    ReadEvent.bytes_cons, List.cons_append, List.nil_append] at h
  rw [readFmt0Header, Eff.run_bind_ok (readU24Be_timestampField hext h),
    Eff.run_bind_ok (readU24Be_bytes hlen rfl), Eff.run_bind_ok (readType_bytes rfl),
    Eff.run_bind_ok (readU32LeStreamId_bytes rfl),
    Eff.run_bind_ok (readExtended_extension hext rfl), length_messageHeader]
  simp only [Eff.run_gets_bind, Eff.run_modify, advance_advance, setState_advance,
    UInt32.ofNat_toNat, Registers.inState, hts]

lemma readFmt1Header_bytes {g g₀ : Registers} {csid : UInt32} {buf : List UInt8}
    (hst : r.states csid = some (g₀.inState buf)) (hsid : g₀.msgStreamId = g.msgStreamId)
    (hlen : g.msgLength.toNat < 2 ^ 24)
    (hext : g.lastHadExtTs = decide (extendedMarker ≤ g.lastDelta.toNat))
    (hts : g₀.timestamp + g.lastDelta = g.timestamp)
    (h : r.stream = ReadEvent.bytes (messageHeader .fmt1 g) ++ es) :
    (readFmt1Header csid).run r
      = (.ok (), (r.setState csid (g.inState [])).advance (messageHeader .fmt1 g).length es) := by
  simp only [messageHeader, Registers.lengthAndType, ReadEvent.bytes_append, List.append_assoc,
    ReadEvent.bytes_cons, List.cons_append, List.nil_append] at h
  rw [readFmt1Header, Eff.run_bind_ok (readU24Be_timestampField hext h),
    Eff.run_bind_ok (readU24Be_bytes hlen rfl), Eff.run_bind_ok (readType_bytes rfl),
    Eff.run_bind_ok (readExtended_extension hext rfl),
    Eff.run_bind_ok (requireState_some (by simpa using hst)), length_messageHeader]
  simp only [Eff.run_modify, advance_advance, setState_advance, UInt32.ofNat_toNat,
    Registers.inState, hsid, hts]

lemma readFmt2Header_bytes {g g₀ : Registers} {csid : UInt32} {buf : List UInt8}
    (hst : r.states csid = some (g₀.inState buf)) (hsid : g₀.msgStreamId = g.msgStreamId)
    (htype : g₀.msgTypeId = g.msgTypeId) (hlen : g₀.msgLength = g.msgLength)
    (hext : g.lastHadExtTs = decide (extendedMarker ≤ g.lastDelta.toNat))
    (hts : g₀.timestamp + g.lastDelta = g.timestamp)
    (h : r.stream = ReadEvent.bytes (messageHeader .fmt2 g) ++ es) :
    (readFmt2Header csid).run r
      = (.ok (), (r.setState csid (g.inState [])).advance (messageHeader .fmt2 g).length es) := by
  simp only [messageHeader, ReadEvent.bytes_append, List.append_assoc] at h
  rw [readFmt2Header, Eff.run_bind_ok (readU24Be_timestampField hext h),
    Eff.run_bind_ok (readExtended_extension hext rfl),
    Eff.run_bind_ok (requireState_some (by simpa using hst)), length_messageHeader]
  simp only [Eff.run_modify, advance_advance, setState_advance, Registers.inState, hsid, htype,
    hlen, hts]

/-- A format 3 chunk repeats the extension it inherits, and moves the timestamp only when it
opens a message. -/
lemma readFmt3Header_bytes {g : Registers} {csid : UInt32} {buf : List UInt8}
    (hst : r.states csid = some (g.inState buf))
    (h : r.stream = ReadEvent.bytes (messageHeader .fmt3 g) ++ es) :
    (readFmt3Header csid).run r
      = (.ok (), (r.setState csid (if buf = []
          then { g.inState buf with timestamp := g.timestamp + g.lastDelta }
          else g.inState buf)).advance (messageHeader .fmt3 g).length es) := by
  have hdup : (readRepeatedTs g.lastHadExtTs).run r = (.ok (), r.advance g.extension.length es) := by
    rw [messageHeader, Registers.extension] at h
    rw [Registers.extension, readRepeatedTs]
    cases hg : g.lastHadExtTs with
    | true =>
        rw [hg, if_pos rfl] at h
        rw [if_pos rfl, if_pos rfl, Eff.run_bind_ok (readU32Be_bytes h), Bytes.length_toBe]
        rfl
    | false =>
        rw [hg, if_neg Bool.false_ne_true] at h
        rw [if_neg Bool.false_ne_true, if_neg Bool.false_ne_true, Eff.run_pure, List.length_nil,
          show es = r.stream from h.symm, advance_zero]
  have hhad : (g.inState buf).lastHadExtTs = g.lastHadExtTs := rfl
  rw [readFmt3Header, Eff.run_bind_ok (requireState_some hst), hhad, Eff.run_bind_ok hdup,
    length_messageHeader, Nat.zero_add]
  -- the timestamp moves on the first chunk of a message only
  by_cases hbuf : buf = []
  · subst hbuf
    rfl
  · have hpart : (g.inState buf).partialPayload ≠ [] := hbuf
    rw [if_neg hpart, if_neg hbuf, Eff.run_pure, setState_eq_self hst]

/-! ### Reading one chunk -/

/-- The header of a legal head leaves the registers it stands for, and an empty buffer. -/
lemma readMessageHeader_head {prev : Option Registers} {msg : Message} {fmt : ChunkFmt}
    {csid : UInt32} (hst : (Phase.idle prev).Tracked (r.states csid))
    (hlen : msg.payload.length < 2 ^ 24) (hlegal : Legal prev msg fmt)
    (h : r.stream = ReadEvent.bytes (messageHeader fmt (.after prev msg fmt)) ++ es) :
    (readMessageHeader fmt.bits csid).run r
      = (.ok (), (r.setState csid ((Registers.after prev msg fmt).inState [])).advance
          (messageHeader fmt (.after prev msg fmt)).length es) := by
  have hlt := (Registers.after_describes prev fmt hlen).length_lt
  cases fmt with
  | fmt0 =>
      exact readFmt0Header_bytes hlt rfl rfl h
  | fmt1 =>
      obtain ⟨g, rfl, hsid⟩ := hlegal
      exact readFmt1Header_bytes hst hsid hlt rfl (add_elapsed _ _) h
  | fmt2 =>
      obtain ⟨g, rfl, hsid, htype, hglen⟩ := hlegal
      exact readFmt2Header_bytes hst hsid htype hglen rfl (add_elapsed _ _) h
  | fmt3 =>
      obtain ⟨g, rfl, hsid, htype, hglen, hdelta⟩ := hlegal
      -- a header without fields repeats the delta
      have hts : g.timestamp + g.lastDelta = msg.timestamp := by
        rw [← hdelta]
        exact add_elapsed _ _
      have hrun := readFmt3Header_bytes (show r.states csid = some (g.inState []) from hst) h
      rw [if_pos rfl] at hrun
      have hafter : ({ g.inState [] with timestamp := g.timestamp + g.lastDelta } : InState)
          = (Registers.after (some g) msg .fmt3).inState [] := by
        simp [Registers.after, Registers.carrying, Registers.inState, hsid, htype, hglen, hts]
      rw [hafter] at hrun
      exact hrun

/-- The header of a continuation changes nothing. -/
lemma readMessageHeader_continuation {g : Registers} {buf : List UInt8} {csid : UInt32}
    (hst : r.states csid = some (g.inState buf)) (hbuf : buf ≠ [])
    (h : r.stream = ReadEvent.bytes (messageHeader .fmt3 g) ++ es) :
    (readMessageHeader ChunkFmt.fmt3.bits csid).run r
      = (.ok (), r.advance (messageHeader .fmt3 g).length es) := by
  have hrun := readFmt3Header_bytes hst h
  rw [if_neg hbuf, setState_eq_self hst] at hrun
  exact hrun

/-- The payload of a legal chunk fills the buffer as the sender's phase says. -/
lemma readPayload_emission (fmt : UInt8) {c : ℕ} {csid : UInt32} {g : Registers} {msg : Message}
    {sent : ℕ} (hc : 1 ≤ c) (hsize : r.chunkSize = .clamp c) (hdesc : g.Describes msg)
    (hsent : sent ≤ msg.payload.length)
    (hst : r.states csid = some (g.inState (msg.payload.take sent)))
    (h : r.stream = ReadEvent.bytes ((msg.payload.drop sent).take c) ++ es) :
    ∃ st, (Phase.next c g msg sent).Tracked (some st) ∧
      (readPayload csid fmt).run r
        = (.ok (if msg.payload.length ≤ sent + c then some msg else none),
            (r.setState csid st).advance ((msg.payload.drop sent).take c).length es) := by
  have hlen := hdesc.length_toNat
  have hfits := hdesc.fits
  have htake : ((msg.payload.drop sent).take c).length
      = min (g.msgLength.toNat - (msg.payload.take sent).length) r.chunkSize.val := by
    rw [hsize, ChunkSize.clamp_val_of_pos hc, List.length_take, List.length_drop,
      List.length_take_of_le hsent, hlen, maxChunkSize]
    omega
  have hread : (readExactCounted (min ((g.inState (msg.payload.take sent)).msgLength.toNat
      - (g.inState (msg.payload.take sent)).partialPayload.length) r.chunkSize.val)).run r
      = (.ok ((msg.payload.drop sent).take c),
          r.advance ((msg.payload.drop sent).take c).length es) := by
    rw [htake]
    exact readExactCounted_bytes _ htake h
  have hbuf : (g.inState (msg.payload.take sent)).partialPayload ++ (msg.payload.drop sent).take c
      = msg.payload.take (sent + c) := List.take_add.symm
  -- the reader sees in 32 bits that the message is whole
  have hwhole : UInt32.ofNat (msg.payload.take (sent + c)).length
      ≥ (g.inState (msg.payload.take sent)).msgLength ↔ msg.payload.length ≤ sent + c := by
    rw [ge_iff_le, UInt32.le_iff_toNat_le, UInt32.toNat_ofNat', List.length_take,
      show (g.inState (msg.payload.take sent)).msgLength = g.msgLength from rfl, hlen]
    omega
  rw [← hbuf] at hwhole
  -- the last chunk of the message, or one before it
  by_cases hdone : msg.payload.length ≤ sent + c
  · refine ⟨g.inState [], ?_, ?_⟩
    · rw [Phase.next, if_pos hdone]
      rfl
    · have hmsg : (⟨(g.inState (msg.payload.take sent)).msgTypeId,
          (g.inState (msg.payload.take sent)).msgStreamId,
          (g.inState (msg.payload.take sent)).timestamp,
          (g.inState (msg.payload.take sent)).partialPayload ++ (msg.payload.drop sent).take c⟩ :
          Message) = msg := by
        rw [hbuf, List.take_of_length_le hdone]
        simp only [Registers.inState, hdesc.typeId, hdesc.streamId, hdesc.timestamp]
      rw [readPayload, Eff.run_bind_ok (requireState_some hst), Eff.run_gets_bind,
        Eff.run_bind_ok hread, if_pos (hwhole.mpr hdone), if_pos hdone, Eff.run_modify_bind,
        Eff.run_pure, hmsg]
      rfl
  · refine ⟨g.inState (msg.payload.take (sent + c)), ?_, ?_⟩
    · rw [Phase.next, if_neg hdone]
      exact ⟨rfl, hdesc, by omega, by omega⟩
    · rw [readPayload, Eff.run_bind_ok (requireState_some hst), Eff.run_gets_bind,
        Eff.run_bind_ok hread, if_neg (mt hwhole.mp hdone), if_neg hdone, Eff.run_modify_bind,
        Eff.run_pure, hbuf]
      rfl

/-- A chunk is a basic header, a message header and a payload. -/
lemma readChunk_of_headers {form : BasicForm} {fmt : ChunkFmt} {csid : UInt32} {r' : ChunkReader}
    (hform : form.Carries csid) (h : r.stream = ReadEvent.bytes (basicHeader form fmt csid) ++ es)
    (hhdr : (readMessageHeader fmt.bits csid).run
        (r.advance (basicHeader form fmt csid).length es) = (.ok (), r')) :
    readChunk.run r = (readPayload csid fmt.bits).run r' := by
  rw [readChunk, Eff.run_bind_ok (readBasicHeader_bytes hform h)]
  exact Eff.run_bind_ok hhdr

/-- **One chunk**: whatever the other chunk streams are doing, reading a legal chunk of a tracked
chunk stream yields the message it completes and keeps the chunk stream tracked. -/
theorem readChunk_emits {c : ℕ} {csid : UInt32} {p q : Phase} {em : Emission} (hc : 1 ≤ c)
    (hsize : r.chunkSize = .clamp c) (hst : p.Tracked (r.states csid)) (hem : Emits c csid p em q)
    (h : r.stream = ReadEvent.bytes em.chunk.wire ++ es) :
    ∃ st, q.Tracked (some st) ∧
      readChunk.run r = (.ok em.completes, (r.setState csid st).advance em.chunk.wire.length es) := by
  cases hem with
  | @head prev form fmt msg hform hlen hlegal =>
      set g := Registers.after prev msg fmt
      have hdesc : g.Describes msg := Registers.after_describes prev fmt hlen
      simp only [emission, Chunk.wire, ReadEvent.bytes_append, List.append_assoc] at h
      set rest := ReadEvent.bytes ((msg.payload.drop 0).take c) ++ es
      have hhdr := readMessageHeader_head
        (r := r.advance (basicHeader form fmt csid).length
          (ReadEvent.bytes (messageHeader fmt g) ++ rest)) hst hlen hlegal rfl
      obtain ⟨st, htr, hpay⟩ := readPayload_emission fmt.bits
        (r := ((r.advance (basicHeader form fmt csid).length
          (ReadEvent.bytes (messageHeader fmt g) ++ rest)).setState csid (g.inState [])).advance
            (messageHeader fmt g).length rest)
        hc hsize hdesc (Nat.zero_le _) (states_setState_self ..) rfl
      refine ⟨st, htr, ?_⟩
      rw [readChunk_of_headers hform h hhdr, hpay]
      simp [emission, Chunk.wire, add_assoc]
  | @continuation g form msg sent hform =>
      obtain ⟨hst, hdesc, hpos, hlt⟩ := hst
      -- there is part of a payload, so the chunk continues a message
      have hne : msg.payload.take sent ≠ [] := by
        rw [Ne, List.take_eq_nil_iff, ← List.length_eq_zero_iff]
        omega
      simp only [emission, Chunk.wire, ReadEvent.bytes_append, List.append_assoc] at h
      set rest := ReadEvent.bytes ((msg.payload.drop sent).take c) ++ es
      have hhdr := readMessageHeader_continuation
        (r := r.advance (basicHeader form .fmt3 csid).length
          (ReadEvent.bytes (messageHeader .fmt3 g) ++ rest)) hst hne rfl
      obtain ⟨st, htr, hpay⟩ := readPayload_emission ChunkFmt.fmt3.bits
        (r := (r.advance (basicHeader form .fmt3 csid).length
          (ReadEvent.bytes (messageHeader .fmt3 g) ++ rest)).advance
            (messageHeader .fmt3 g).length rest)
        hc hsize hdesc hlt.le hst rfl
      refine ⟨st, htr, ?_⟩
      rw [readChunk_of_headers hform h hhdr, hpay]
      simp [emission, Chunk.wire, add_assoc]

/-! ### Reading a whole schedule -/

/-- Every chunk stream of the reader agrees with the sender's phase. -/
def Tracks (r : ChunkReader) (P : UInt32 → Phase) : Prop := ∀ k, (P k).Tracked (r.states k)

/-- Before its first header a chunk stream is tracked by any reader. -/
lemma tracks_unused (r : ChunkReader) : r.Tracks fun _ => .idle none := fun _ => trivial

/-- One chunk keeps every chunk stream tracked. -/
lemma Tracks.update {P : UInt32 → Phase} {csid : UInt32} {q : Phase} {st : InState} {n : ℕ}
    (hP : r.Tracks P) (hq : q.Tracked (some st)) :
    ((r.setState csid st).advance n es).Tracks (Function.update P csid q) := by
  intro k
  by_cases hk : k = csid
  · subst hk
    rw [Function.update_self, states_advance, states_setState_self]
    exact hq
  · rw [Function.update_of_ne hk, states_advance, states_setState_ne hk]
    exact hP k

/-- Reading a schedule returns the messages it completes, in the order of their last chunks, and
stops where the schedule does. -/
theorem readMessages_schedule {c : ℕ} {P Q : UInt32 → Phase} {ems : List Emission} (hc : 1 ≤ c)
    (hsched : Schedule c P ems Q) (hP : r.Tracks P) (hsize : r.chunkSize = .clamp c)
    (hdone : ∀ k, ∃ g, Q k = .idle g) (h : r.stream = ReadEvent.bytes (wireOf ems) ++ es) :
    ∃ r', (readMessages (completed ems).length).run r = (.ok (completed ems), r') ∧
      r'.stream = es ∧ r'.Tracks Q ∧ r'.chunkSize = r.chunkSize := by
  induction hsched generalizing r with
  | nil => exact ⟨r, rfl, h, hP, rfl⟩
  | @cons P em p' ems Q hstep hrest ih =>
      rw [wireOf_cons, ReadEvent.bytes_append, List.append_assoc] at h
      obtain ⟨st, htr, hread⟩ := readChunk_emits hc hsize (hP em.csid) hstep h
      obtain ⟨r', hrun, hstream, hQ, hsize'⟩ := ih (hP.update htr) hsize hdone rfl
      refine ⟨r', ?_, hstream, hQ, hsize'⟩
      rw [completed_cons]
      cases hcomp : em.completes with
      | some msg =>
          rw [hcomp] at hread
          rw [Option.toList_some, List.singleton_append, List.length_cons, readMessages,
            Eff.run_bind_ok (readMessage_of_some hread), Eff.run_bind_ok hrun]
          rfl
      | none =>
          -- a message that was begun is completed later, so there is more to read
          obtain ⟨g, msg, sent, hbusy⟩ := hstep.busy_of_incomplete hcomp
          have hne := hrest.completed_ne_nil (k := em.csid)
            (by rw [Function.update_self, hbusy]) (hdone em.csid)
          obtain ⟨m, ms, hms⟩ := List.exists_cons_of_ne_nil hne
          rw [hcomp] at hread
          rw [Option.toList_none, List.nil_append]
          rw [hms, List.length_cons, readMessages, Eff.run_bind] at hrun ⊢
          rw [readMessage_of_none hread]
          exact hrun

/-- **Reassembly**: whatever legal headers every chunk stream picks, and however the chunks of the
chunk streams are interleaved, repeated calls of `read_message` return on each chunk stream exactly
its messages in order, all of them in the order of their last chunks. -/
theorem read_interleaved (c : ℕ) (hc : 1 ≤ c) (msgs : UInt32 → List Message) (ems : List Emission)
    (last : UInt32 → Option Registers)
    (hsends : ∀ k, Sends c k (.idle none) (msgs k) (ems.filter (·.csid = k)) (.idle (last k)))
    (es : List ReadEvent) :
    ∃ r', (readMessages (taggedCompletions ems).length).run
        ((new (ReadEvent.bytes (wireOf ems) ++ es)).setChunkSize c)
          = (.ok ((taggedCompletions ems).map (·.2)), r') ∧
      r'.stream = es ∧
      ∀ k, ((taggedCompletions ems).filter (·.1 = k)).map (·.2) = msgs k := by
  obtain ⟨r', hrun, hstream, -, -⟩ := readMessages_schedule hc (schedule_of_sends hsends)
    (tracks_unused ((new (ReadEvent.bytes (wireOf ems) ++ es)).setChunkSize c)) rfl
    (fun k => ⟨last k, rfl⟩) rfl
  refine ⟨r', ?_, hstream, fun k => ?_⟩
  · rw [← List.length_map (·.2), map_snd_taggedCompletions]
    exact hrun
  · rw [filter_taggedCompletions, (hsends k).completed_eq]

/-- Reassembly of two chunk streams, the second sent between the two chunks of the first. -/
theorem read_interleaved_two_streams :
    let a : Message := ⟨20, 0, 7, [1, 2, 3]⟩
    let b : Message := ⟨8, 1, 9, [4]⟩
    let ems := [emission 2 3 .one .fmt0 (.after none a .fmt0) a 0,
      emission 2 4 .one .fmt0 (.after none b .fmt0) b 0,
      emission 2 3 .one .fmt3 (.after none a .fmt0) a 2]
    ∃ r', (readMessages (taggedCompletions ems).length).run
        ((new (ReadEvent.bytes (wireOf ems) ++ [])).setChunkSize 2)
          = (.ok ((taggedCompletions ems).map (·.2)), r') ∧
      r'.stream = [] ∧
      ∀ k, ((taggedCompletions ems).filter (·.1 = k)).map (·.2)
        = if k = 3 then [a] else if k = 4 then [b] else [] := by
  intro a b ems
  refine read_interleaved 2 (by decide) _ ems (fun k => if k = 3 then some (.after none a .fmt0)
    else if k = 4 then some (.after none b .fmt0) else none) (fun k => ?_) []
  by_cases h3 : k = 3
  · subst h3
    have hhead : Emits 2 3 (.idle none) (emission 2 3 .one .fmt0 (.after none a .fmt0) a 0)
        (.next 2 (.after none a .fmt0) a 0) := .head (by decide) (by decide) trivial
    have hcont : Emits 2 3 (.busy (.after none a .fmt0) a 2)
        (emission 2 3 .one .fmt3 (.after none a .fmt0) a 2)
        (.next 2 (.after none a .fmt0) a 2) := .continuation (by decide)
    exact Sends.cons hhead (Sends.cons hcont .nil)
  · by_cases h4 : k = 4
    · subst h4
      have hhead : Emits 2 4 (.idle none) (emission 2 4 .one .fmt0 (.after none b .fmt0) b 0)
          (.next 2 (.after none b .fmt0) b 0) := .head (by decide) (by decide) trivial
      exact Sends.cons hhead .nil
    · have hnone : ems.filter (·.csid = k) = [] := by
        have h3' : ¬ 3 = k := fun h => h3 h.symm
        have h4' : ¬ 4 = k := fun h => h4 h.symm
        simp [ems, emission, Emission.csid, h3', h4']
      rw [hnone, if_neg h3, if_neg h3, if_neg h4, if_neg h4]
      exact .nil

end ChunkReader

end Rtmp
