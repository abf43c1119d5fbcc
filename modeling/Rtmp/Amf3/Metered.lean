import Mathlib.Algebra.Order.Monoid.Prod
import Rtmp.Amf3.Decoder
import Rtmp.Lib.Meter

/-!
What an AMF3 value costs to decode.

`Metered` holds the decoder once more, as it is, but for what it counts: each call of the decoder's
method, and the level of each call that the depth check lets in.  Its loops are given any number of
rounds to spare, and its recursion any amount of fuel.

* `Onward` relates the states of a run: input is only taken, and the depth is given back;
* `tracks_readMarked`, `tracks_decodeInner`: a reader whose children are tracked is tracked;
* **`tracks_decodeFrom`**: a value is decoded in at most one call for each byte it takes, and one for
  the byte it fails on, on as many levels as the depth check leaves.
-/

namespace Rtmp.Amf3

/-- How many AMF0 levels, and how many AMF3 levels inside of them. -/
abbrev Levels := ℕ × ℕ

/-- A step of the decoder that keeps count. -/
abbrev MeterM (α : Type) := Eff Error ((List UInt8 × Decoder) × Meter Levels) α

namespace Metered

/-- A step that calls nothing. -/
abbrev leaf {α : Type} (x : DecodeM α) : MeterM α := Eff.onFst x

/-! ### The decoder with a meter -/

def byReference (inline : ℕ → MeterM Amf3Value) : MeterM Amf3Value := do
  let header ← leaf (Eff.onFst readU29)
  if header &&& 1 = 0 then leaf (lookupObject (header >>> 1))
  else inline header

def inSlot (body : MeterM Amf3Value) : MeterM Amf3Value := do
  let slot ← leaf
    (Eff.onSnd (Eff.modifyGet fun d : Decoder => (d.objects.length, d.pushObject .null)))
  let v ← body
  leaf (Eff.onSnd (Eff.modify (Decoder.setObject slot v)))
  pure v

def readMember (child : MeterM Amf3Value) : MeterM (Option (String × Amf3Value)) := do
  let k ← leaf readString
  if k = "" then pure none
  else
    let v ← child
    pure (some (k, v))

def readEntry (child : MeterM Amf3Value) : MeterM (Amf3Value × Amf3Value) := do
  let k ← child
  let v ← child
  pure (k, v)

section

-- the rounds that each loop is given to spare
variable (spare : ℕ)

def readMembers (child : MeterM Amf3Value) : MeterM (List (String × Amf3Value)) := do
  let unread ← leaf (Eff.onFst (Eff.gets List.length))
  Eff.collect (readMember child) (unread + 1 + spare)

def readArray (child : MeterM Amf3Value) : MeterM Amf3Value :=
  byReference fun header =>
    inSlot do
      let assoc ← readMembers spare child
      let dense ← Eff.times child (header >>> 1)
      pure (.array dense assoc)

def readDynamicMembers (child : MeterM Amf3Value) (isDynamic : Bool) :
    MeterM (List (String × Amf3Value)) :=
  if isDynamic then readMembers spare child else pure []

def readObjectBody (child : MeterM Amf3Value) (t : TraitDef) : MeterM Amf3Value := do
  let values ← Eff.times child t.sealedMembers.length
  let dynamicMembers ← readDynamicMembers spare child t.isDynamic
  pure (.object t.className t.isDynamic (t.sealedMembers.zip values) dynamicMembers none)

def readObject (buf : List UInt8) (child : MeterM Amf3Value) : MeterM Amf3Value :=
  byReference fun header => do
    let t ← leaf (readTraits header)
    inSlot
      (if t.externalizable then leaf (readExternalizable buf t) else readObjectBody spare child t)

def readVectorObject (child : MeterM Amf3Value) : MeterM Amf3Value :=
  byReference fun header => do
    let fixed ← leaf (Eff.onFst readU8)
    let objectTypeName ← leaf readString
    inSlot do
      let items ← Eff.times child (header >>> 1)
      pure (.vectorObject (decide (fixed ≠ 0)) objectTypeName items)

def readDictionary (child : MeterM Amf3Value) : MeterM Amf3Value :=
  byReference fun header => do
    let weakKeys ← leaf (Eff.onFst readU8)
    inSlot do
      let entries ← Eff.times (readEntry child) (header >>> 1)
      pure (.dictionary (decide (weakKeys ≠ 0)) entries)

/-- The markers of values with children; the others call nothing. -/
def readMarked (buf : List UInt8) (child : MeterM Amf3Value) : UInt8 → MeterM Amf3Value
  | 0x09 => readArray spare child
  | 0x0A => readObject spare buf child
  | 0x10 => readVectorObject child
  | 0x11 => readDictionary child
  | marker => leaf (Amf3.readMarked buf (Eff.fail depthExceeded) marker)

def decodeInner (buf : List UInt8) (child : MeterM Amf3Value) : MeterM Amf3Value := do
  let marker ← leaf (Eff.onFst readU8)
  readMarked spare buf child marker

/-- Every call is counted; the ones that the depth check lets in are a level each. -/
def decodeFrom (buf : List UInt8) : (fuel : ℕ) → MeterM Amf3Value
  | 0 => Meter.refuse depthExceeded
  | fuel + 1 => do
      let depth ← leaf (Eff.onSnd (Eff.gets Decoder.depth))
      if maxDecodeDepth ≤ depth then Meter.refuse depthExceeded
      else
        Meter.level (0, 1) do
          leaf (Eff.onSnd (Eff.modify Decoder.enter))
          let result ← Eff.attempt (decodeInner spare buf (decodeFrom buf fuel))
          leaf (Eff.onSnd (Eff.modify Decoder.leave))
          leaf (Eff.ofExcept result)

/-- The decoder's method, with a meter. -/
def Decoder.decode (buf : List UInt8) : MeterM Amf3Value := decodeFrom spare buf (decodeFuel + spare)

/-- One value from the front of the input, with tables of its own. -/
def decode : Eff Error (List UInt8 × Meter Levels) Amf3Value where
  run s :=
    let r := (Decoder.decode spare s.1).run ((s.1, {}), s.2)
    (r.1, (r.2.1.1, r.2.2))

/-- The next value of a packet. -/
def decodeNext (buf : List UInt8) : MeterM (Option Amf3Value) := do
  let unread ← leaf (Eff.onFst (Eff.gets id))
  if unread.isEmpty then pure none
  else
    let v ← Decoder.decode spare buf
    pure (some v)

/-- All values of a packet. -/
def decodeAll (buf : List UInt8) : MeterM (List Amf3Value) :=
  Eff.collect (decodeNext spare buf) (buf.length + 1 + spare)

end

/-! ### What it costs -/

/-- The budget of the calls: what is unread. -/
def unread (s : List UInt8 × Decoder) : ℕ := s.1.length

/-- From the states after `base`, `x'` does what `x` does, on at most `room` levels. -/
abbrev Tracks {α : Type} (base : List UInt8 × Decoder) (n room : ℕ) (x : DecodeM α)
    (x' : MeterM α) : Prop :=
  Meter.Tracks Onward unread base n (0, room) x x'

variable {α : Type} {base : List UInt8 × Decoder} {room spare : ℕ} {x : DecodeM α}
  {child : DecodeM Amf3Value} {child' : MeterM Amf3Value} {buf : List UInt8} {g : Meter Levels}

lemma tracks_leaf (h : Eff.Along Onward x) : Tracks base 0 room x (leaf x) :=
  .quiet (fun _ _ => Onward.length_le) h

lemma tracks_byReference {inline : ℕ → DecodeM Amf3Value} {inline' : ℕ → MeterM Amf3Value}
    (h : ∀ header, Tracks base 0 room (inline header) (inline' header)) :
    Tracks base 0 room (Amf3.byReference inline) (byReference inline') :=
  (tracks_leaf (onFst_advances (readU29From_advances 3 0))).bind fun header =>
    .ite (fun _ => tracks_leaf (lookupObject_advances _)) fun _ => h header

lemma tracks_inSlot {body : DecodeM Amf3Value} {body' : MeterM Amf3Value}
    (h : Tracks base 0 room body body') : Tracks base 0 room (Amf3.inSlot body) (inSlot body') :=
  (tracks_leaf slot_advances).bind fun slot => h.bind fun v =>
    (tracks_leaf (setObject_advances slot v)).bind fun _ => .pure v

/-- The members end with the empty key, or with the input. -/
lemma tracks_readMembers (hchild : Eff.Along Onward child) (h : Tracks base 0 room child child') :
    Tracks base 0 room (Amf3.readMembers child) (readMembers spare child') := by
  have hmember : Tracks base 0 room (Amf3.readMember child) (readMember child') :=
    (tracks_leaf readString_advances).bind fun k =>
      .ite (fun _ => .pure none) fun _ => h.bind fun v => .pure (some (k, v))
  have hunread : Tracks base 0 room _ (leaf (Eff.onFst (Eff.gets List.length))) :=
    tracks_leaf (onFst_advances (.gets _))
  intro s g hs
  refine (hunread s g hs).bind fun n t g₁ hn _ => ?_
  cases hn
  exact hmember.collect (fun _ _ _ => readMember_shrinks hchild) (Nat.le_add_right _ _) hs
    (Nat.lt_succ_self _)

lemma tracks_readObjectBody (hchild : Eff.Along Onward child) (h : Tracks base 0 room child child')
    (t : TraitDef) :
    Tracks base 0 room (Amf3.readObjectBody child t) (readObjectBody spare child' t) :=
  (h.times _).bind fun _ =>
    Meter.Tracks.bind (.ite (fun _ => tracks_readMembers hchild h) fun _ => .pure []) fun _ => .pure _

/-- A value without children is read in the same way whatever would read its children. -/
lemma readMarked_childless {marker : UInt8} (harray : marker ≠ 0x09) (hobject : marker ≠ 0x0A)
    (hvector : marker ≠ 0x10) (hdictionary : marker ≠ 0x11) (child' : DecodeM Amf3Value) :
    Amf3.readMarked buf child marker = Amf3.readMarked buf child' marker := by
  rw [Amf3.readMarked.eq_def, Amf3.readMarked.eq_def]
  split
  case h_10 => exact absurd rfl harray
  case h_11 => exact absurd rfl hobject
  case h_17 => exact absurd rfl hvector
  case h_18 => exact absurd rfl hdictionary
  all_goals rfl

lemma tracks_readMarked (hchild : Eff.Along Onward child) (h : Tracks base 0 room child child')
    (marker : UInt8) :
    Tracks base 0 room (Amf3.readMarked buf child marker) (readMarked spare buf child' marker) := by
  rw [readMarked.eq_def]
  split
  case h_1 =>
    exact tracks_byReference fun header => tracks_inSlot
      ((tracks_readMembers hchild h).bind fun _ => (h.times _).bind fun _ => .pure _)
  case h_2 =>
    refine tracks_byReference fun header => (tracks_leaf (readTraits_advances header)).bind fun t =>
      tracks_inSlot (.ite (fun _ => ?_) fun _ => tracks_readObjectBody hchild h t)
    exact tracks_leaf (readExternalizable_advances t)
  case h_3 =>
    exact tracks_byReference fun header => (tracks_leaf (onFst_advances Scan.byte_advances)).bind
      fun _ => (tracks_leaf readString_advances).bind fun _ =>
        tracks_inSlot ((h.times _).bind fun _ => .pure _)
  case h_4 =>
    exact tracks_byReference fun header => (tracks_leaf (onFst_advances Scan.byte_advances)).bind
      fun _ => tracks_inSlot
        ((Meter.Tracks.times (h.bind fun _ => h.bind fun _ => .pure _) _).bind fun _ => .pure _)
  case h_5 harray hobject hvector hdictionary =>
    rw [readMarked_childless harray hobject hvector hdictionary (Eff.fail depthExceeded)]
    exact tracks_leaf (readMarked_advances (.fail _) marker)

/-- The marker pays for the call that reads it. -/
lemma tracks_decodeInner (hchild : Eff.Along Onward child) (h : Tracks base 0 room child child') :
    Tracks base 1 room (Amf3.decodeInner buf child) (decodeInner spare buf child') := by
  refine Meter.Tracks.bind (.paid (fun _ _ => Onward.length_le) (onFst_advances Scan.byte_advances)
    fun s marker t hmarker => ?_) fun marker => tracks_readMarked hchild h marker
  have hbyte := Scan.byte_eq_ok.mp (Eff.run_onFst_eq_ok.mp hmarker).1
  rw [unread, unread, hbyte]
  exact Nat.lt_succ_self _

/-- A call that the depth check turns away is counted, and is all that happens. -/
lemma tracksAt_refused {n : ℕ} {s : List UInt8 × Decoder} (hs : maxDecodeDepth ≤ s.2.depth)
    (fuel fuel' : ℕ) (g : Meter Levels) :
    Meter.TracksAt Onward unread 0 (0, n) (Amf3.decodeFrom buf fuel)
      (decodeFrom spare buf fuel') s g := by
  have hrun : (decodeFrom spare buf fuel').run (s, g)
      = (Meter.refuse depthExceeded : MeterM Amf3Value).run (s, g) := by
    cases fuel' with
    | zero => rfl
    | succ fuel' =>
        have hget : (leaf (Eff.onSnd (Eff.gets Decoder.depth))).run (s, g)
            = (.ok s.2.depth, (s, g)) := rfl
        rw [decodeFrom, Eff.run_bind_ok hget, if_pos hs]
  rw [Meter.TracksAt, decodeFrom_refused hs, hrun]
  exact Meter.Tracks.refuse depthExceeded s g (refl_of Onward s)

/-- **A value is decoded in at most one call for each byte it takes**, and one for the byte it fails
on, on as many levels as the depth check leaves, whatever the fuel beyond that. -/
theorem tracks_decodeFrom {fuel fuel' : ℕ} (hfuel : maxDecodeDepth < base.2.depth + fuel)
    (hfuel' : maxDecodeDepth < base.2.depth + fuel') :
    Tracks base 0 (maxDecodeDepth - base.2.depth) (Amf3.decodeFrom buf fuel)
      (decodeFrom spare buf fuel') := by
  induction fuel generalizing fuel' base with
  | zero =>
      intro s g hs
      exact tracksAt_refused (by rw [hs.2]; exact Nat.le_of_lt hfuel) 0 fuel' g
  | succ fuel ih =>
      by_cases hdepth : maxDecodeDepth ≤ base.2.depth
      · intro s g hs
        exact tracksAt_refused (by rw [hs.2]; exact hdepth) (fuel + 1) fuel' g
      · -- there is depth left, so neither has run out of fuel
        obtain ⟨fuel', rfl⟩ : ∃ k, fuel' = k + 1 := ⟨fuel' - 1, by omega⟩
        have hchild : Tracks (base.1, base.2.enter) 0 (maxDecodeDepth - (base.2.depth + 1))
            (Amf3.decodeFrom buf fuel) (decodeFrom spare buf fuel') :=
          ih (by simp only [Decoder.enter]; omega) (by simp only [Decoder.enter]; omega)
        -- the level of this value, and the room its parts have
        have hroom : ((0, 1) + (0, maxDecodeDepth - (base.2.depth + 1)) : Levels)
            = (0, maxDecodeDepth - base.2.depth) := by
          rw [Prod.mk_add_mk, Nat.zero_add]
          congr 1
          omega
        refine (tracks_leaf (gets_advances _)).bind fun depth =>
          .ite (fun _ => .refuse _) fun _ => ?_
        rw [← hroom]
        exact .level (0, 1) (.around (fun s => (s.1, s.2.enter)) (fun s => (s.1, s.2.leave))
          (fun _ => rfl) (fun _ => rfl) (tracks_decodeInner (decodeFrom_advances fuel) hchild)
          (fun s hs => ⟨⟨hs.1, congrArg (· + 1) hs.2⟩, rfl⟩)
          fun s t hst => ⟨⟨hst.1, congrArg (· - 1) hst.2⟩, rfl⟩)

/-- The fuel of the decoder's method is never used up. -/
lemma tracks_decoder : Tracks base 0 (maxDecodeDepth - base.2.depth) (Amf3.Decoder.decode buf)
    (Decoder.decode spare buf) :=
  tracks_decodeFrom (by simp only [decodeFuel]; omega) (by simp only [decodeFuel]; omega)

/-- A value with tables of its own has all the levels. -/
lemma tracks_decode {rest : List UInt8} :
    Meter.Tracks (flip List.IsSuffix) List.length rest 0 ((0, maxDecodeDepth) : Levels) Amf3.decode
      (decode spare) := by
  intro u g _
  have hvalue : Meter.TracksAt Onward unread 0 (0, maxDecodeDepth) (Amf3.Decoder.decode u)
      (Decoder.decode spare u) (u, ({} : Amf3.Decoder)) g :=
    tracks_decoder (u, {}) g (refl_of Onward _)
  obtain ⟨g', hrun, hspent⟩ := hvalue
  refine ⟨g', ?_, hspent.along.1, hspent.calls, hspent.live, hspent.peak⟩
  simp only [decode, Amf3.decode, hrun]

/-- A packet is decoded in a run of such calls. -/
lemma tracksAt_decodeAll : Meter.TracksAt Onward unread 0 ((0, maxDecodeDepth) : Levels)
    (Eff.collect (Amf3.decodeNext buf) (buf.length + 1)) (decodeAll spare buf) (buf, {}) g := by
  have hunread : Tracks (buf, {}) 0 maxDecodeDepth _ (leaf (Eff.onFst (Eff.gets id))) :=
    tracks_leaf (onFst_advances (.gets _))
  have hnext : Tracks (buf, {}) 0 maxDecodeDepth (Amf3.decodeNext buf) (decodeNext spare buf) :=
    hunread.bind fun rest => .ite (fun _ => .pure none) fun _ =>
      Meter.Tracks.bind tracks_decoder fun v => .pure (some v)
  refine hnext.collect (fun s t v h => ?_) (Nat.le_add_right _ _) (refl_of Onward _)
    (Nat.lt_succ_self _)
  obtain ⟨rest, s₁, hrest, h⟩ := Eff.run_bind_eq_ok.mp h
  cases hrest
  split_ifs at h
  · cases h
  · obtain ⟨w, s₂, hw, h⟩ := Eff.run_bind_eq_ok.mp h
    cases h
    exact decodeFrom_shrinks hw

/-! ### Declared counts -/

/-- The markers whose header declares how many elements follow. -/
def counted : List UInt8 := [0x09, 0x0D, 0x0E, 0x0F, 0x10, 0x11]

lemma takes_quiet (h : Eff.Along Onward x) : Meter.Takes unread 0 x :=
  .of_along (fun _ _ => Onward.length_le) h

lemma takes_onFst {n : ℕ} {y : Eff Error (List UInt8) α} (h : Meter.Takes List.length n y) :
    Meter.Takes unread n (Eff.onFst y : DecodeM α) :=
  fun _ a _ hy => h _ a _ (Eff.run_onFst_eq_ok.mp hy).1

lemma takes_inSlot {n : ℕ} {body : DecodeM Amf3Value} (h : Meter.Takes unread n body) :
    Meter.Takes unread n (Amf3.inSlot body) :=
  .bind_right (takes_quiet slot_advances) fun slot => h.bind_left fun v =>
    .bind_left (takes_quiet (setObject_advances slot v)) fun _ => .pure v

/-- A vector of numbers, whatever makes them. -/
lemma takes_numbers {y : Eff Error (List UInt8) α} (hy : Meter.Takes List.length 1 y) (count : ℕ)
    (make : UInt8 → List α → Amf3Value) :
    Meter.Takes unread count (do
      let v ← Eff.onFst (do
        let fixed ← readU8
        let items ← Eff.times y count
        Pure.pure (make fixed items))
      Eff.onSnd (Eff.modify (Decoder.pushObject v))
      Pure.pure v : DecodeM Amf3Value) := by
  have hbyte : Meter.Takes List.length 0 readU8 :=
    .of_along (fun _ _ h => h.length_le) Scan.byte_advances
  refine (takes_onFst (hbyte.bind_right fun fixed => (hy.times count).bind_left fun _ =>
    .pure _)).bind_left fun v => ?_
  exact .bind_left (takes_quiet (pushObject_advances v)) fun _ => .pure v

lemma takes_uintBe {n : ℕ} {e : Error} : Meter.Takes List.length (n + 1) (Scan.uintBe (n + 1) e) := by
  intro u v t h
  rw [(Scan.uintBe_eq_ok.mp h).2, List.length_append, Bytes.length_toBe]
  omega

/-- Every element takes a byte at least. -/
lemma takes_counted (hchild : Eff.Along Onward child) (htakes : Meter.Takes unread 1 child)
    {marker : UInt8} (hmarker : marker ∈ counted) :
    ∃ inline : ℕ → DecodeM Amf3Value, Amf3.readMarked buf child marker = Amf3.byReference inline ∧
      ∀ header, Meter.Takes unread (header >>> 1) (inline header) := by
  have hdouble : Meter.Takes List.length 1 Amf3.readDouble :=
    takes_uintBe.mono (Nat.le_add_left 1 7) |>.bind_left fun _ => .pure _
  have hword : Meter.Takes List.length 1 readU32Be := takes_uintBe.mono (Nat.le_add_left 1 3)
  have hbyte : Meter.Takes unread 0 (Eff.onFst readU8 : DecodeM UInt8) :=
    takes_quiet (onFst_advances Scan.byte_advances)
  have hentry : Meter.Takes unread 1 (Amf3.readEntry child) :=
    htakes.bind_left fun _ => .bind_left (takes_quiet hchild) fun _ => .pure _
  simp only [counted, List.mem_cons, List.not_mem_nil, or_false] at hmarker
  obtain rfl | rfl | rfl | rfl | rfl | rfl := hmarker
  · exact ⟨_, rfl, fun header => takes_inSlot (.bind_right (takes_quiet (readMembers_advances hchild))
      fun _ => (htakes.times _).bind_left fun _ => .pure _)⟩
  · exact ⟨_, rfl, fun header => takes_numbers hword _ _⟩
  · exact ⟨_, rfl, fun header => takes_numbers hword _ _⟩
  · exact ⟨_, rfl, fun header => takes_numbers hdouble _ _⟩
  · exact ⟨_, rfl, fun header => hbyte.bind_right fun _ => .bind_right (takes_quiet readString_advances)
      fun _ => takes_inSlot ((htakes.times _).bind_left fun _ => .pure _)⟩
  · exact ⟨_, rfl, fun header => hbyte.bind_right fun _ =>
      takes_inSlot ((hentry.times _).bind_left fun _ => .pure _)⟩

/-- **A value that declares more elements than there are bytes** is refused. -/
lemma decode_declared {marker : UInt8} {header : ℕ} {u u' : List UInt8} (d : Amf3.Decoder)
    (hmarker : marker ∈ counted) (hheader : readU29.run u = (.ok header, u'))
    (hinline : header &&& 1 ≠ 0) (hshort : u'.length < header >>> 1) :
    ∃ e, ((Amf3.Decoder.decode buf).run (marker :: u, d)).1 = .error e := by
  by_cases hdepth : maxDecodeDepth ≤ d.depth
  · exact ⟨_, congrArg Prod.fst (decodeFrom_refused hdepth)⟩
  · have hvalue : Meter.Takes unread 1 (Amf3.decodeFrom buf maxDecodeDepth) :=
      fun s v t h => decodeFrom_shrinks h
    obtain ⟨inline, hread, htakes⟩ := takes_counted (decodeFrom_advances maxDecodeDepth) hvalue hmarker
    obtain ⟨e, he⟩ := (htakes header).fails (s := (u', d.enter)) hshort
    refine ⟨e, ?_⟩
    rw [Amf3.Decoder.decode, decodeFuel, run_decodeFrom_succ (Nat.lt_of_not_le hdepth)]
    have hbyte : (Eff.onFst readU8 : DecodeM UInt8).run (marker :: u, d.enter)
        = (.ok marker, (u, d.enter)) := rfl
    rw [Amf3.decodeInner, Eff.run_bind_ok hbyte, hread, Amf3.byReference,
      Eff.run_bind_ok (Eff.run_onFst hheader), if_neg hinline]
    exact he

end Metered

end Rtmp.Amf3
