import Rtmp.Amf.Grammar
import Rtmp.Amf3.Metered

/-!
What an AMF0 value costs to decode.

`Metered` holds the decoder once more, with the calls counted: those of its own, and those of the
AMF3 decoder for a value that is embedded.

* `tracks_readAvmplus`: an embedded value has all the AMF3 levels, wherever it stands;
* `tracks_decodeMarked`: a reader whose children are tracked is tracked;
* **`tracks_decodeAtDepth`**: a value is decoded in at most one call for each byte it takes, and one
  for the byte it fails on, on as many levels as there is room for;
* **`decoding_cannot_spin`**: what this says about the offsets of a buffer.
-/

namespace Rtmp.Amf

open Amf3 (Levels)

/-- A step of the decoder that keeps count. -/
abbrev MeterM (α : Type) := Eff Error ((List UInt8 × RefTable) × Meter Levels) α

namespace Metered

/-- A step on the bytes that calls nothing. -/
abbrev leaf {α : Type} (x : Eff Error (List UInt8) α) : MeterM α := Eff.onFst (Eff.onFst x)

/-- A step on the reference table. -/
abbrev table {α : Type} (x : Eff Error RefTable α) : MeterM α := Eff.onFst (Eff.onSnd x)

/-! ### The decoder with a meter -/

def readProperty (child : MeterM Amf0Value) : MeterM (Option (String × Amf0Value)) := do
  let key ← leaf readUtf8Short
  if key = "" then
    let mark ← leaf readU8
    if mark = 0x09 then pure none
    else Eff.fail (.invalidAmf0 ("expected OBJECT_END (0x09) after empty key, got " ++ hex mark))
  else
    let value ← child
    pure (some (key, value))

def inSlot (empty : Amf0Value) (body : MeterM Amf0Value) : MeterM Amf0Value := do
  let slot ← table (Eff.modifyGet fun refs : RefTable => (refs.length, refs ++ [empty]))
  let v ← body
  table (Eff.modify fun refs => refs.set slot v)
  pure v

def readStrictArray (child : MeterM Amf0Value) (count : ℕ) : MeterM Amf0Value :=
  inSlot (.strictArray []) do
    let items ← Eff.times child count
    pure (.strictArray items)

section

-- the rounds that each loop is given to spare
variable (spare : ℕ)

def readObjectBody (child : MeterM Amf0Value) : MeterM (List (String × Amf0Value)) := do
  let unread ← leaf (Eff.gets List.length)
  Eff.collect (readProperty child) (unread + 1 + spare)

def readContainer (child : MeterM Amf0Value) (make : List (String × Amf0Value) → Amf0Value) :
    MeterM Amf0Value :=
  inSlot (make []) do
    let pairs ← readObjectBody spare child
    pure (make pairs)

/-- The calls of the AMF3 decoder are counted on the same meter. -/
def readAvmplus : MeterM Amf0Value := do
  match ← Eff.attempt (Meter.zoom Prod.fst (fun rest s => (rest, s.2)) (Amf3.Metered.decode spare)) with
  | .ok v => pure v.toAmf0
  | .error e => Eff.fail (.invalidAmf0 ("embedded AMF3 value: " ++ e.display))

def decodeMarked (child : MeterM Amf0Value) : MeterM Amf0Value := do
  let marker ← leaf readU8
  match marker with
  | 0x00 => do
      let n ← leaf readDouble
      pure (.number n)
  | 0x01 => do
      let b ← leaf readU8
      pure (.boolean (decide (b ≠ 0)))
  | 0x02 => do
      let s ← leaf readUtf8Short
      pure (.string s)
  | 0x0C => do
      let s ← leaf readUtf8Long
      pure (.string s)
  | 0x05 => pure .null
  | 0x06 => pure .undefined
  | 0x03 => readContainer spare child .object
  | 0x08 => do
      let _count ← leaf readU32Be
      readContainer spare child .ecmaArray
  | 0x0A => do
      let count ← leaf readU32Be
      readStrictArray child count
  | 0x0B => do
      let millis ← leaf readDouble
      let timezone ← leaf readI16Be
      pure (.date millis timezone)
  | 0x11 => readAvmplus spare
  | 0x0D => pure .unsupported
  | 0x0F => do
      let s ← leaf readUtf8Long
      pure (.xmlDocument s)
  | 0x10 => do
      let className ← leaf readUtf8Short
      readContainer spare child (.typedObject className)
  | 0x07 => Eff.onFst readReference
  | other => Eff.fail (.invalidAmf0 ("unknown marker " ++ hex other))

/-- Every call is counted; the ones there is room for are a level each. -/
def decodeAtDepth : (room : ℕ) → MeterM Amf0Value
  | 0 => Meter.refuse
      (.invalidAmf0 ("nested container depth exceeded " ++ toString maxDecodeDepth))
  | room + 1 => Meter.level (1, 0) (decodeMarked spare (decodeAtDepth room))

/-- The next value of a packet. -/
def decodeNext : MeterM (Option Amf0Value) := do
  let unread ← leaf (Eff.gets id)
  if unread.isEmpty then pure none
  else
    let v ← decodeAtDepth spare maxDecodeDepth
    pure (some v)

/-- All values of a packet. -/
def decodeAll (buf : List UInt8) : MeterM (List Amf0Value) :=
  Eff.collect (decodeNext spare) (buf.length + 1 + spare)

end

/-! ### What it costs -/

/-- The budget of the calls: what is unread. -/
def unread (s : List UInt8 × RefTable) : ℕ := s.1.length

/-- From the states after `base`, `x'` does what `x` does, on at most `room` levels of AMF0 and all
those of AMF3. -/
abbrev Tracks {α : Type} (base : List UInt8 × RefTable) (n room : ℕ) (x : DecodeM α)
    (x' : MeterM α) : Prop :=
  Meter.Tracks Scan.Advances unread base n (room, maxDecodeDepth) x x'

variable {α : Type} {base : List UInt8 × RefTable} {room spare : ℕ} {child : DecodeM Amf0Value}
  {child' : MeterM Amf0Value} {g : Meter Levels}

lemma advances_le (s t : List UInt8 × RefTable) (h : Scan.Advances s t) : unread t ≤ unread s :=
  h.length_le

lemma tracks_leaf {x : Eff Error (List UInt8) α} (h : Eff.Along (flip List.IsSuffix) x) :
    Tracks base 0 room (Eff.onFst x) (leaf x) :=
  .quiet advances_le fun s => h s.1

lemma tracks_table (x : Eff Error RefTable α) : Tracks base 0 room (Eff.onSnd x) (table x) :=
  .quiet advances_le fun s => List.suffix_refl s.1

lemma readDouble_advances : Eff.Along (flip List.IsSuffix) readDouble :=
  Scan.uintBe_advances.bind fun _ => .pure _

lemma readI16Be_advances : Eff.Along (flip List.IsSuffix) readI16Be :=
  Scan.uintBe_advances.bind fun _ => .pure _

lemma readUtf8Short_advances : Eff.Along (flip List.IsSuffix) readUtf8Short :=
  Scan.uintBe_advances.bind fun _ => Scan.utf8_advances

lemma readUtf8Long_advances : Eff.Along (flip List.IsSuffix) readUtf8Long :=
  Scan.uintBe_advances.bind fun _ => Scan.utf8_advances

/-- The properties end with the object end, or with the input. -/
lemma tracks_readObjectBody (hchild : ReadsChild room child)
    (h : Tracks base 0 room child child') :
    Tracks base 0 room (Amf.readObjectBody child) (readObjectBody spare child') := by
  have hproperty : Tracks base 0 room (Amf.readProperty child) (readProperty child') := by
    refine (tracks_leaf readUtf8Short_advances).bind fun key => .ite (fun _ => ?_) fun _ =>
      h.bind fun value => .pure (some (key, value))
    exact (tracks_leaf Scan.byte_advances).bind fun mark =>
      .ite (fun _ => .pure none) fun _ => .fail _
  have hunread : Tracks base 0 room _ (leaf (Eff.gets List.length)) := tracks_leaf (.gets _)
  intro s g hs
  refine (hunread s g hs).bind fun n t g₁ hn _ => ?_
  cases hn
  exact hproperty.collect (fun _ _ _ => readProperty_shrinks hchild) (Nat.le_add_right _ _) hs
    (Nat.lt_succ_self _)

lemma tracks_inSlot {empty : Amf0Value} {body : DecodeM Amf0Value} {body' : MeterM Amf0Value}
    (h : Tracks base 0 room body body') :
    Tracks base 0 room (Amf.inSlot empty body) (inSlot empty body') :=
  (tracks_table _).bind fun _ => h.bind fun v => (tracks_table _).bind fun _ => .pure v

lemma tracks_readContainer (hchild : ReadsChild room child) (h : Tracks base 0 room child child')
    (make : List (String × Amf0Value) → Amf0Value) :
    Tracks base 0 room (Amf.readContainer child make) (readContainer spare child' make) :=
  tracks_inSlot ((tracks_readObjectBody hchild h).bind fun pairs => .pure (make pairs))

/-- An embedded value does not come back to this decoder. -/
lemma tracks_readAvmplus : Tracks base 0 room Amf.readAvmplus (readAvmplus spare) := by
  have hembedded : Tracks base 0 room (Eff.onFst Amf3.decode)
      (Meter.zoom Prod.fst (fun rest s => (rest, s.2)) (Amf3.Metered.decode spare)) := by
    intro s g _
    have hroom : ((0, maxDecodeDepth) : Levels) ≤ (room, maxDecodeDepth) :=
      ⟨Nat.zero_le _, Nat.le_refl _⟩
    have hvalue : Meter.TracksAt (flip List.IsSuffix) List.length 0 ((room, maxDecodeDepth) : Levels)
        Amf3.decode (Amf3.Metered.decode spare) s.1 g :=
      Amf3.Metered.tracks_decode.mono hroom s.1 g (List.suffix_refl s.1)
    exact .zoom Prod.fst (fun rest s => (rest, s.2)) hvalue rfl (fun _ => rfl) fun _ h => h
  exact hembedded.attempt_bind (fun v => .pure v.toAmf0) (fun _ => rfl) fun _ => rfl

lemma tracks_readReference : Tracks base 0 room readReference (Eff.onFst readReference) := by
  refine .quiet advances_le (Eff.Along.bind (fun s => Scan.uintBe_advances s.1) fun idx =>
    Eff.Along.bind (fun s => List.suffix_refl s.1) fun refs => ?_)
  cases refs[idx]? with
  | none => exact .fail _
  | some v => exact .pure v

/-- The marker pays for the call that reads it. -/
lemma tracks_decodeMarked (hchild : ReadsChild room child) (h : Tracks base 0 room child child') :
    Tracks base 1 room (Amf.decodeMarked child) (decodeMarked spare child') := by
  -- the byte of the marker is what the call is charged to
  have hmarker : Tracks base 1 room (Eff.onFst readU8) (leaf readU8) := by
    refine .paid advances_le (fun s => Scan.byte_advances s.1) fun s marker t hmarker => ?_
    rw [unread, unread, Scan.byte_eq_ok.mp (Eff.run_onFst_eq_ok.mp hmarker).1]
    exact Nat.lt_succ_self _
  refine hmarker.bind fun marker => ?_
  split
  case h_1 => exact (tracks_leaf readDouble_advances).bind fun _ => .pure _
  case h_2 => exact (tracks_leaf Scan.byte_advances).bind fun _ => .pure _
  case h_3 => exact (tracks_leaf readUtf8Short_advances).bind fun _ => .pure _
  case h_4 => exact (tracks_leaf readUtf8Long_advances).bind fun _ => .pure _
  case h_7 => exact tracks_readContainer hchild h _
  case h_8 =>
    exact (tracks_leaf Scan.uintBe_advances).bind fun _ => tracks_readContainer hchild h _
  case h_9 =>
    exact (tracks_leaf Scan.uintBe_advances).bind fun count =>
      tracks_inSlot ((h.times count).bind fun _ => .pure _)
  case h_10 =>
    exact (tracks_leaf readDouble_advances).bind fun _ =>
      (tracks_leaf readI16Be_advances).bind fun _ => .pure _
  case h_11 => exact tracks_readAvmplus
  case h_13 => exact (tracks_leaf readUtf8Long_advances).bind fun _ => .pure _
  case h_14 =>
    exact (tracks_leaf readUtf8Short_advances).bind fun _ => tracks_readContainer hchild h _
  case h_15 => exact tracks_readReference
  case h_16 => simp [*, Meter.Tracks.fail]
  all_goals exact Meter.Tracks.pure _

/-- **A value is decoded in at most one call for each byte it takes**, and one for the byte it fails
on, on as many levels as there is room for. -/
theorem tracks_decodeAtDepth (room : ℕ) :
    Tracks base 0 room (Amf.decodeAtDepth room) (decodeAtDepth spare room) := by
  induction room with
  | zero => exact .refuse _
  | succ room ih =>
      have hlevel : ((1, 0) + (room, maxDecodeDepth) : Levels) = (room + 1, maxDecodeDepth) := by
        rw [Prod.mk_add_mk, Nat.add_comm, Nat.zero_add]
      have hcall : Meter.Tracks Scan.Advances unread base 0 ((1, 0) + (room, maxDecodeDepth))
          (Amf.decodeAtDepth (room + 1)) (decodeAtDepth spare (room + 1)) :=
        (tracks_decodeMarked (reads_of_decodeAtDepth room) ih).level (1, 0)
      rwa [hlevel] at hcall

/-- A packet is decoded in a run of such calls. -/
lemma tracksAt_decodeAll {buf : List UInt8} :
    Meter.TracksAt Scan.Advances unread 0 ((maxDecodeDepth, maxDecodeDepth) : Levels)
      (Eff.collect Amf.decodeNext (buf.length + 1)) (decodeAll spare buf) (buf, []) g := by
  have hnext : Tracks (buf, []) 0 maxDecodeDepth Amf.decodeNext (decodeNext spare) :=
    (tracks_leaf (.gets _)).bind fun rest => .ite (fun _ => .pure none) fun _ =>
      (tracks_decodeAtDepth maxDecodeDepth).bind fun v => .pure (some v)
  exact hnext.collect
    (fun s t v h => Nat.lt_of_succ_le (decode_iff.mp (decodeNext_eq_some.mp h).1).length_le)
    (Nat.le_add_right _ _) (refl_of _ _) (Nat.lt_succ_self _)

/-! ### Declared counts -/

/-- Every item takes a byte at least. -/
lemma takes_readStrictArray (htakes : Meter.Takes unread 1 child) (count : ℕ) :
    Meter.Takes unread count (Amf.readStrictArray child count) := by
  have hquiet : ∀ {α : Type} (x : Eff Error RefTable α),
      Meter.Takes unread 0 (Eff.onSnd x : DecodeM α) :=
    fun _ => .of_along advances_le fun s => List.suffix_refl s.1
  have hitems : Meter.Takes unread count (do
      let items ← Eff.times child count
      pure (.strictArray items) : DecodeM Amf0Value) :=
    (htakes.times count).bind_left fun items => .pure _
  exact .bind_right (hquiet _) fun slot => hitems.bind_left fun v =>
    .bind_left (hquiet _) fun _ => .pure v

/-- An array that declares more items than there are bytes is refused. -/
lemma decodeAtDepth_declared {count : ℕ} {u : List UInt8} (refs : RefTable) (room : ℕ)
    (hcount : count < 256 ^ 4) (hshort : u.length < count) :
    ∃ e, ((Amf.decodeAtDepth room).run (0x0A :: (Bytes.toBe 4 count ++ u), refs)).1 = .error e := by
  cases room with
  | zero => exact ⟨_, rfl⟩
  | succ room =>
      have hitem : Meter.Takes unread 1 (Amf.decodeAtDepth room) := fun s v t h =>
        (reads_of_decodeAtDepth room s t v h).length_le
      have hrun : (Amf.decodeAtDepth (room + 1)).run (0x0A :: (Bytes.toBe 4 count ++ u), refs)
          = (Amf.readStrictArray (Amf.decodeAtDepth room) count).run (u, refs) :=
        decodeAtDepth_run (decodeMarked_strictArray hcount)
      rw [hrun]
      exact (takes_readStrictArray hitem count).fails hshort

end Metered

/-! ### Offsets -/

/-- The offset of what is unread, of a buffer that was read from `pos` on; it is the one that `decode`
gives back. -/
def offset (buf : List UInt8) (pos : ℕ) (unread : List UInt8) : ℕ :=
  pos + ((buf.drop pos).length - unread.length)

/-- What a decode from the offset `pos` may do: read on inside the buffer, make a call for each byte it
reads and one more, and climb so many levels. -/
structure Bounded (buf : List UInt8) (pos : ℕ) (levels : Levels) (unread : List UInt8)
    (g : Meter Levels) : Prop where
  inside : unread <:+ buf.drop pos
  calls : g.calls ≤ offset buf pos unread - pos + 1
  levels : g.peak ≤ levels

/-- What was spent is what was read. -/
lemma bounded_of_spent {σ α : Type} {R : σ → σ → Prop} {left : σ → List UInt8} {levels : Levels}
    {a : Except Error α} {buf : List UInt8} {pos : ℕ} {s t : σ} {g : Meter Levels}
    (h : Meter.Spent R (fun s => (left s).length) 0 levels s ⟨0, 0, 0⟩ a t g)
    (hs : left s = buf.drop pos) (hinside : left t <:+ left s) :
    Bounded buf pos levels (left t) g where
  inside := hs ▸ hinside
  calls := by
    have hcalls : g.calls + (left t).length + 0 ≤ 0 + (left s).length + Meter.overdraft a := h.calls
    have hover : Meter.overdraft a ≤ 1 := by cases a <;> simp [Meter.overdraft]
    have hle := hinside.length_le
    rw [hs] at hcalls hle
    rw [offset]
    omega
  levels := by
    have hpeak := h.peak
    simpa using hpeak

/-- What takes input ends at a later offset. -/
lemma offset_progress {buf u : List UInt8} {pos : ℕ} (h : u.length < (buf.drop pos).length) :
    pos < offset buf pos u ∧ offset buf pos u ≤ buf.length := by
  rw [List.length_drop] at h
  rw [offset, List.length_drop]
  omega

/-- **Decoding cannot spin.**  From every offset, in every state of the tables and at every depth, a
value of either format is decoded inside the buffer, past its marker at least, in at most one call for
each byte and one more, on as many levels of each format as the depth checks leave, and an AMF3
decoder has its depth back whether the value was read or refused.  So is a packet.  What declares more
elements than there are bytes is refused.  The metered decoders do what the others do, however many
rounds they are given to spare. -/
theorem decoding_cannot_spin (buf : List UInt8) (pos spare : ℕ) :
    (∀ room refs, let r := (decodeAtDepth room).run (buf.drop pos, refs)
      (∀ v, r.1 = .ok v → pos < offset buf pos r.2.1 ∧ offset buf pos r.2.1 ≤ buf.length) ∧
      ∃ g, (Metered.decodeAtDepth spare room).run ((buf.drop pos, refs), ⟨0, 0, 0⟩) = (r.1, (r.2, g)) ∧
        Bounded buf pos (room, maxDecodeDepth) r.2.1 g) ∧
    (∀ d, let r := (Amf3.Decoder.decode buf).run (buf.drop pos, d)
      r.2.2.depth = d.depth ∧
      (∀ v, r.1 = .ok v → pos < offset buf pos r.2.1 ∧ offset buf pos r.2.1 ≤ buf.length) ∧
      ∃ g, (Amf3.Metered.Decoder.decode spare buf).run ((buf.drop pos, d), ⟨0, 0, 0⟩)
          = (r.1, (r.2, g)) ∧ Bounded buf pos (0, maxDecodeDepth - d.depth) r.2.1 g) ∧
    (∃ s g, (Metered.decodeAll spare buf).run ((buf, []), ⟨0, 0, 0⟩) = (decodeAll buf, (s, g)) ∧
      Bounded buf 0 (maxDecodeDepth, maxDecodeDepth) s.1 g) ∧
    (∃ s g, (Amf3.Metered.decodeAll spare buf).run ((buf, {}), ⟨0, 0, 0⟩)
        = (Amf3.decodeAll buf, (s, g)) ∧ Bounded buf 0 (0, maxDecodeDepth) s.1 g) ∧
    (∀ count u, buf.drop pos = 0x0A :: (Bytes.toBe 4 count ++ u) → count < 2 ^ 32 → u.length < count →
      ∀ room refs, ∃ e, ((decodeAtDepth room).run (buf.drop pos, refs)).1 = .error e) ∧
    ∀ marker header u u', buf.drop pos = marker :: u → marker ∈ Amf3.Metered.counted →
      Amf3.readU29.run u = (.ok header, u') → header &&& 1 ≠ 0 → u'.length < header >>> 1 →
      ∀ d, ∃ e, ((Amf3.Decoder.decode buf).run (buf.drop pos, d)).1 = .error e := by
  refine ⟨fun room refs => ⟨fun v hv => ?_, ?_⟩, fun d => ⟨?_, fun v hv => ?_, ?_⟩, ?_, ?_,
    fun count u hu hcount hshort room refs => ?_,
    fun marker header u u' hu hmarker hheader hinline hshort d => ?_⟩
  · -- every value is in the grammar, and none of its forms is empty
    exact offset_progress (reads_of_decodeAtDepth room _ _ v (Prod.ext hv rfl)).length_le
  · obtain ⟨g, hrun, hspent⟩ :=
      Metered.tracks_decodeAtDepth room (buf.drop pos, refs) ⟨0, 0, 0⟩ (refl_of Scan.Advances _)
    exact ⟨g, hrun, bounded_of_spent hspent rfl hspent.along⟩
  · exact (Amf3.decodeFrom_advances Amf3.decodeFuel (buf.drop pos, d)).2
  · exact offset_progress (Amf3.decodeFrom_shrinks (Prod.ext hv rfl))
  · obtain ⟨g, hrun, hspent⟩ :=
      Amf3.Metered.tracks_decoder (buf.drop pos, d) ⟨0, 0, 0⟩ (refl_of Amf3.Onward _)
    exact ⟨g, hrun, bounded_of_spent hspent rfl hspent.along.1⟩
  · obtain ⟨g, hrun, hspent⟩ := Metered.tracksAt_decodeAll
    exact ⟨_, g, hrun, bounded_of_spent hspent rfl hspent.along⟩
  · obtain ⟨g, hrun, hspent⟩ := Amf3.Metered.tracksAt_decodeAll
    exact ⟨_, g, hrun, bounded_of_spent hspent rfl hspent.along.1⟩
  · rw [hu]
    exact Metered.decodeAtDepth_declared refs room hcount hshort
  · rw [hu]
    exact Amf3.Metered.decode_declared d hmarker hheader hinline hshort

/-- An array, an embedded value in it, and the AMF3 value that is embedded. -/
example : ((Metered.decodeAtDepth 0 maxDecodeDepth).run
    (([0x0A, 0, 0, 0, 1, 0x11, 0x01], []), ⟨0, 0, 0⟩)).2.2 = ⟨3, 0, (2, 1)⟩ := by
  decide +kernel

/-- An array that declares `2 ^ 32 - 1` items, and has one. -/
theorem decoding_cannot_spin_array :
    ∃ e, ((decodeAtDepth maxDecodeDepth).run ([0x0A, 0xFF, 0xFF, 0xFF, 0xFF, 0x05], [])).1 = .error e :=
  (decoding_cannot_spin [0x0A, 0xFF, 0xFF, 0xFF, 0xFF, 0x05] 0 0).2.2.2.2.1 (2 ^ 32 - 1) [0x05] rfl
    (by decide) (by decide) maxDecodeDepth []

end Rtmp.Amf
