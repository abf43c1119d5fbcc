import Rtmp.Chunk.Message
import Rtmp.Lib.Bytes

/-!
The chunk protocol as a legal sender sees it, apart from any implementation: what each header
format leaves out, when it may be left out, and how a message is cut into chunks.

* `Registers`: the header fields a chunk stream inherits from chunk to chunk;
* `Legal`: when a message may be opened with each of the four formats;
* `Chunk.wire`: the bytes of one chunk;
* `Emits`: one chunk of one chunk stream, as a step between *phases* (between two messages, or
  in the middle of one);
* `Sends`: a run of one chunk stream; `Schedule`: any interleaving of the chunks of all of them;
* `schedule_of_sends`: chunk streams that each run legally can be interleaved at will.
-/

namespace Rtmp

/-- The extended timestamp marker, and the least value that needs an extended timestamp. -/
def extendedMarker : ℕ := 0x00FFFFFF

/-- The four message header formats. -/
inductive ChunkFmt where
  | fmt0 | fmt1 | fmt2 | fmt3
  deriving DecidableEq, Repr

/-- The two format bits of the basic header. -/
def ChunkFmt.bits : ChunkFmt → UInt8
  | .fmt0 => 0
  | .fmt1 => 1
  | .fmt2 => 2
  | .fmt3 => 3

/-- The three widths of the basic header. -/
inductive BasicForm where
  | one | two | three
  deriving DecidableEq, Repr

/-- The chunk stream ids a basic header of each width can name. -/
def BasicForm.Carries : BasicForm → UInt32 → Prop
  | .one, csid => 2 ≤ csid.toNat ∧ csid.toNat ≤ 63
  | .two, csid => 64 ≤ csid.toNat ∧ csid.toNat ≤ 319
  | .three, csid => 64 ≤ csid.toNat ∧ csid.toNat ≤ 65599

instance (form : BasicForm) (csid : UInt32) : Decidable (form.Carries csid) := by
  cases form <;> exact inferInstanceAs (Decidable (_ ∧ _))

/-- What the headers seen so far have set on a chunk stream.  `lastDelta` is the timestamp field
of the last header that had one (for format 0 the timestamp itself), and `lastHadExtTs` whether
that field was extended. -/
structure Registers where
  msgTypeId : UInt8
  msgStreamId : UInt32
  msgLength : UInt32
  timestamp : UInt32
  lastDelta : UInt32
  lastHadExtTs : Bool
  deriving DecidableEq, Repr

/-- When a message may be opened with a header of the given format, on a chunk stream whose
registers are `prev`. -/
def Legal (prev : Option Registers) (msg : Message) : ChunkFmt → Prop
  | .fmt0 => True
  | .fmt1 => ∃ g, prev = some g ∧ g.msgStreamId = msg.msgStreamId
  | .fmt2 => ∃ g, prev = some g ∧ g.msgStreamId = msg.msgStreamId ∧
      g.msgTypeId = msg.msgTypeId ∧ g.msgLength = UInt32.ofNat msg.payload.length
  | .fmt3 => ∃ g, prev = some g ∧ g.msgStreamId = msg.msgStreamId ∧
      g.msgTypeId = msg.msgTypeId ∧ g.msgLength = UInt32.ofNat msg.payload.length ∧
      msg.timestamp - g.timestamp = g.lastDelta

/-- The registers after a header that opens `msg` and carries `field` as its timestamp field. -/
def Registers.carrying (msg : Message) (field : UInt32) : Registers where
  msgTypeId := msg.msgTypeId
  msgStreamId := msg.msgStreamId
  msgLength := UInt32.ofNat msg.payload.length
  timestamp := msg.timestamp
  lastDelta := field
  lastHadExtTs := decide (extendedMarker ≤ field.toNat)

/-- The registers after `msg` was opened with a header of the given format.  Format 3 carries no
timestamp field, so the field registered before it stays. -/
def Registers.after (prev : Option Registers) (msg : Message) : ChunkFmt → Registers
  | .fmt0 => .carrying msg msg.timestamp
  | .fmt1 | .fmt2 => .carrying msg (msg.timestamp - (prev.map (·.timestamp)).getD 0)
  | .fmt3 =>
      { Registers.carrying msg ((prev.map (·.lastDelta)).getD 0) with
        lastHadExtTs := (prev.map (·.lastHadExtTs)).getD false }

/-- Timestamps are measured modulo `2^32`. -/
lemma add_elapsed (before now : UInt32) : before + (now - before) = now := by
  rw [UInt32.add_comm, UInt32.sub_add_cancel]

/-- Ids above the one-byte form are sent less 64. -/
lemma toNat_sub_64 {csid : UInt32} (h : 64 ≤ csid.toNat) : (csid - 64).toNat = csid.toNat - 64 :=
  UInt32.toNat_sub_of_le _ _ (UInt32.le_iff_toNat_le.mpr h)

/-! ### The bytes of a chunk -/

/-- One chunk: the registers its header leaves and the piece of payload it carries. -/
structure Chunk where
  csid : UInt32
  form : BasicForm
  fmt : ChunkFmt
  regs : Registers
  data : List UInt8
  deriving DecidableEq, Repr

/-- The basic header. -/
def basicHeader (form : BasicForm) (fmt : ChunkFmt) (csid : UInt32) : List UInt8 :=
  match form with
  | .one => [(fmt.bits <<< 6) ||| csid.toUInt8]
  | .two => [fmt.bits <<< 6, (csid - 64).toUInt8]
  | .three => ((fmt.bits <<< 6) ||| 1) :: Bytes.toLe 2 (csid - 64).toNat

/-- The 24-bit timestamp field: the value itself, or the marker that an extension follows. -/
def Registers.timestampField (g : Registers) : List UInt8 :=
  Bytes.toBe 3 (if g.lastHadExtTs then extendedMarker else g.lastDelta.toNat)

/-- The 24-bit length and the type. -/
def Registers.lengthAndType (g : Registers) : List UInt8 :=
  Bytes.toBe 3 g.msgLength.toNat ++ [g.msgTypeId]

/-- The extended timestamp, present in every format once it is registered. -/
def Registers.extension (g : Registers) : List UInt8 :=
  if g.lastHadExtTs then Bytes.toBe 4 g.lastDelta.toNat else []

/-- The message header. -/
def messageHeader (fmt : ChunkFmt) (g : Registers) : List UInt8 :=
  match fmt with
  | .fmt0 => g.timestampField ++ g.lengthAndType ++ Bytes.toLe 4 g.msgStreamId.toNat ++ g.extension
  | .fmt1 => g.timestampField ++ g.lengthAndType ++ g.extension
  | .fmt2 => g.timestampField ++ g.extension
  | .fmt3 => g.extension

lemma length_messageHeader (fmt : ChunkFmt) (g : Registers) :
    (messageHeader fmt g).length = (match fmt with
      | .fmt0 => 11
      | .fmt1 => 7
      | .fmt2 => 3
      | .fmt3 => 0) + g.extension.length := by
  cases fmt <;> simp [messageHeader, Registers.timestampField, Registers.lengthAndType] <;> omega

/-- The bytes of a chunk. -/
def Chunk.wire (ch : Chunk) : List UInt8 :=
  basicHeader ch.form ch.fmt ch.csid ++ messageHeader ch.fmt ch.regs ++ ch.data

/-! ### Runs of chunk streams -/

/-- Where a chunk stream stands: between two messages, or with `sent` bytes of a message's payload
out and more to come. -/
inductive Phase where
  | idle (regs : Option Registers)
  | busy (regs : Registers) (msg : Message) (sent : ℕ)

/-- A chunk together with the message it completes, if any. -/
structure Emission where
  chunk : Chunk
  completes : Option Message

/-- The chunk stream an emission belongs to. -/
def Emission.csid (em : Emission) : UInt32 := em.chunk.csid

/-- The emission that carries the next `c` bytes at most of `msg`, of which `sent` are out. -/
def emission (c : ℕ) (csid : UInt32) (form : BasicForm) (fmt : ChunkFmt) (g : Registers)
    (msg : Message) (sent : ℕ) : Emission where
  chunk :=
    { csid, form, fmt
      regs := g
      data := (msg.payload.drop sent).take c }
  completes := if msg.payload.length ≤ sent + c then some msg else none

/-- The phase after that emission. -/
def Phase.next (c : ℕ) (g : Registers) (msg : Message) (sent : ℕ) : Phase :=
  if msg.payload.length ≤ sent + c then .idle (some g) else .busy g msg (sent + c)

/-- One legal chunk of the chunk stream `csid`, with chunks of at most `c` payload bytes: the
head of a message, or a format 3 continuation. -/
inductive Emits (c : ℕ) (csid : UInt32) : Phase → Emission → Phase → Prop
  | head {prev form fmt msg} (hform : form.Carries csid) (hlen : msg.payload.length < 2 ^ 24)
      (hlegal : Legal prev msg fmt) :
      Emits c csid (.idle prev)
        (emission c csid form fmt (.after prev msg fmt) msg 0)
        (.next c (.after prev msg fmt) msg 0)
  | continuation {g form msg sent} (hform : form.Carries csid) :
      Emits c csid (.busy g msg sent)
        (emission c csid form .fmt3 g msg sent)
        (.next c g msg sent)

/-- A run of the chunk stream `csid`: the chunks it emits and the messages they complete. -/
inductive Sends (c : ℕ) (csid : UInt32) : Phase → List Message → List Emission → Phase → Prop
  | nil {p} : Sends c csid p [] [] p
  | cons {p em p' msgs ems q} (h : Emits c csid p em p') (hrest : Sends c csid p' msgs ems q) :
      Sends c csid p (em.completes.toList ++ msgs) (em :: ems) q

/-- A run of all chunk streams together, their chunks in any order. -/
inductive Schedule (c : ℕ) : (UInt32 → Phase) → List Emission → (UInt32 → Phase) → Prop
  | nil {P} : Schedule c P [] P
  | cons {P em p' ems Q} (h : Emits c em.csid (P em.csid) em p')
      (hrest : Schedule c (Function.update P em.csid p') ems Q) : Schedule c P (em :: ems) Q

/-- The bytes of a run. -/
def wireOf (ems : List Emission) : List UInt8 := ems.flatMap (·.chunk.wire)

/-- The messages a run completes, in the order of their last chunks. -/
def completed (ems : List Emission) : List Message := ems.filterMap (·.completes)

/-- The same, each with the chunk stream it came on. -/
def taggedCompletions (ems : List Emission) : List (UInt32 × Message) :=
  ems.filterMap fun em => em.completes.map (em.csid, ·)

@[simp] lemma wireOf_nil : wireOf [] = [] := rfl

@[simp] lemma wireOf_cons (em : Emission) (ems : List Emission) :
    wireOf (em :: ems) = em.chunk.wire ++ wireOf ems := rfl

@[simp] lemma wireOf_append (ems fs : List Emission) :
    wireOf (ems ++ fs) = wireOf ems ++ wireOf fs := by
  simp [wireOf]

@[simp] lemma completed_nil : completed [] = [] := rfl

lemma completed_cons (em : Emission) (ems : List Emission) :
    completed (em :: ems) = em.completes.toList ++ completed ems := by
  rw [completed, List.filterMap_cons]
  cases em.completes <;> rfl

lemma map_snd_taggedCompletions (ems : List Emission) :
    (taggedCompletions ems).map (·.2) = completed ems := by
  rw [taggedCompletions, completed, List.map_filterMap]
  refine List.filterMap_congr fun em _ => ?_
  cases em.completes <;> rfl

/-- The messages of one chunk stream are the ones its own chunks complete. -/
lemma filter_taggedCompletions (k : UInt32) (ems : List Emission) :
    ((taggedCompletions ems).filter (·.1 = k)).map (·.2)
      = completed (ems.filter (·.csid = k)) := by
  induction ems with
  | nil => rfl
  | cons em ems ih =>
      have hcons : taggedCompletions (em :: ems)
          = (em.completes.map (em.csid, ·)).toList ++ taggedCompletions ems := by
        rw [taggedCompletions, List.filterMap_cons]
        cases em.completes <;> rfl
      rw [hcons, List.filter_append, List.map_append, ih]
      by_cases hk : em.csid = k
      · rw [List.filter_cons_of_pos (by simpa using hk), completed_cons]
        cases em.completes <;> simp [hk]
      · rw [List.filter_cons_of_neg (by simpa using hk)]
        cases em.completes <;> simp [hk]

/-- A chunk stream only emits chunks of its own. -/
lemma Emits.csid_eq {c : ℕ} {csid : UInt32} {p q : Phase} {em : Emission}
    (h : Emits c csid p em q) : em.csid = csid := by
  cases h <;> rfl

/-- The messages of a chunk stream's run are the ones its chunks complete. -/
lemma Sends.completed_eq {c : ℕ} {csid : UInt32} {p q : Phase} {msgs : List Message}
    {ems : List Emission} (h : Sends c csid p msgs ems q) : completed ems = msgs := by
  induction h with
  | nil => rfl
  | cons _ _ ih => rw [completed_cons, ih]

/-- A chunk that completes no message leaves its chunk stream in the middle of one. -/
lemma Emits.busy_of_incomplete {c : ℕ} {csid : UInt32} {p q : Phase} {em : Emission}
    (h : Emits c csid p em q) (hnone : em.completes = none) : ∃ g msg sent, q = .busy g msg sent := by
  have hnext : ∀ g msg sent, (if msg.payload.length ≤ sent + c then some msg else none) = none
      → ∃ g' msg' sent', Phase.next c g msg sent = .busy g' msg' sent' := by
    intro g msg sent hif
    have hlt : ¬ msg.payload.length ≤ sent + c := by
      intro hle
      rw [if_pos hle] at hif
      cases hif
    rw [Phase.next, if_neg hlt]
    exact ⟨_, _, _, rfl⟩
  cases h with
  | head hform hlen hlegal => exact hnext _ _ _ hnone
  | continuation hform => exact hnext _ _ _ hnone

/-- A schedule that finishes what it was in the middle of completes a message. -/
lemma Schedule.completed_ne_nil {c : ℕ} {P Q : UInt32 → Phase} {ems : List Emission} {k : UInt32}
    (h : Schedule c P ems Q) {g : Registers} {msg : Message} {sent : ℕ}
    (hbusy : P k = .busy g msg sent) (hidle : ∃ g', Q k = .idle g') : completed ems ≠ [] := by
  induction h generalizing g msg sent with
  | nil =>
      obtain ⟨g', hg'⟩ := hidle
      rw [hbusy] at hg'
      cases hg'
  | @cons P em p' ems Q hstep hrest ih =>
      rw [completed_cons]
      cases hcomp : em.completes with
      | some m => simp
      | none =>
          by_cases hk : k = em.csid
          · obtain ⟨g', msg', sent', rfl⟩ := hstep.busy_of_incomplete hcomp
            exact ih (by rw [hk, Function.update_self]) hidle
          · exact ih (by rw [Function.update_of_ne hk]; exact hbusy) hidle

/-- The run of a single chunk stream is a schedule. -/
lemma Sends.schedule {c : ℕ} {k : UInt32} {p q : Phase} {msgs : List Message}
    {ems : List Emission} (h : Sends c k p msgs ems q) {P : UInt32 → Phase} (hP : P k = p) :
    Schedule c P ems (Function.update P k q) := by
  induction h generalizing P with
  | nil =>
      rw [← hP, Function.update_eq_self]
      exact .nil
  | @cons p em p' msgs ems q hstep hrest ih =>
      have hk := hstep.csid_eq
      have hrun := ih (P := Function.update P k p') (Function.update_self ..)
      rw [Function.update_idem] at hrun
      rw [← hP, ← hk] at hstep
      refine .cons hstep ?_
      rw [hk]
      exact hrun

/-- **Interleaving**: chunk streams that each run legally on their own make a legal schedule in
whatever order their chunks are merged. -/
theorem schedule_of_sends {c : ℕ} {ems : List Emission} {P Q : UInt32 → Phase}
    {msgs : UInt32 → List Message}
    (h : ∀ k, Sends c k (P k) (msgs k) (ems.filter (·.csid = k)) (Q k)) : Schedule c P ems Q := by
  induction ems generalizing P msgs with
  | nil =>
      have hPQ : P = Q := by
        funext k
        have hk := h k
        rw [List.filter_nil] at hk
        generalize msgs k = ms, P k = p, Q k = q at hk ⊢
        cases hk
        rfl
      rw [hPQ]
      exact .nil
  | cons em ems ih =>
      have hk := h em.csid
      rw [List.filter_cons_of_pos (by simp)] at hk
      generalize msgs em.csid = ms at hk
      cases hk with
      | @cons _ _ p' ms' _ _ hstep hrest =>
          -- only the stream of the first chunk has gone on
          have hrun : ∀ k, Sends c k (Function.update P em.csid p' k)
              (Function.update msgs em.csid ms' k) (ems.filter (·.csid = k)) (Q k) := by
            intro k
            by_cases hkc : k = em.csid
            · subst hkc
              rw [Function.update_self, Function.update_self]
              exact hrest
            · have hk' := h k
              rw [List.filter_cons_of_neg (by simpa using Ne.symm hkc)] at hk'
              rw [Function.update_of_ne hkc, Function.update_of_ne hkc]
              exact hk'
          exact .cons hstep (ih hrun)

end Rtmp
