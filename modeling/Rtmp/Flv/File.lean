import Mathlib.Data.UInt
import Rtmp.Amf.Debug
import Rtmp.Amf.RoundTrip
import Rtmp.Flv.Audio
import Rtmp.Flv.Crypt
import Rtmp.Flv.Video

/-!
FLV byte streams: a header, and tags with the size of each one behind it.

* `FlvWriter`, `writePayload`: the sink so far, and what every way to write a tag comes down to;
* `FlvReader`, `readFrame`, `Frame.decode`, `readTag`: a tag is taken off the stream with all checks
  of its frame before its body is looked at;
* `Call`, `session`: the ways to write a tag, one after the other, with failures in between;
* `run_session`: what a session leaves in the sink;
* `collects_frames`: the frames of a sink are read back, with every byte counted;
* `readAll_session` (**round trip**): a reader gets the tags of the calls that succeeded.

The sink takes whatever is written and the source gives all bytes there are, so the only failures are
those of the code itself.
-/

namespace Rtmp.Flv

def flvTagTypeAudio : UInt8 := 8

def flvTagTypeVideo : UInt8 := 9

def flvTagTypeScriptData : UInt8 := 18

def flvVersion : UInt8 := 1

def flvHeaderSize : UInt32 := 9

def ui24Max : UInt32 := 0x00FFFFFF

structure FlvHeaderFlags where
  audio : Bool
  video : Bool
  deriving DecidableEq, Repr

def FlvHeaderFlags.toByte (flags : FlvHeaderFlags) : UInt8 :=
  (if flags.audio then 0x04 else 0) ||| (if flags.video then 0x01 else 0)

def FlvHeaderFlags.fromByte (b : UInt8) : FlvHeaderFlags where
  audio := decide (b &&& 0x04 ≠ 0)
  video := decide (b &&& 0x01 ≠ 0)

/-- `FLV`, the version, the flags and where the tags start. -/
def buildFlvHeader (flags : FlvHeaderFlags) : List UInt8 :=
  0x46 :: 0x4C :: 0x56 :: flvVersion :: flags.toByte :: Bytes.toBe 4 flvHeaderSize.toNat

/-! ### Writing -/

/-- The I/O errors the writer makes itself. -/
inductive WriteError where
  | invalidInput (text : String)
  | brokenPipe (text : String)
  deriving DecidableEq, Repr

/-- The low 24 bits. -/
def ui24Bytes (v : UInt32) : List UInt8 := [(v >>> 16).toUInt8, (v >>> 8).toUInt8, v.toUInt8]

/-- A tag: its type, the size of the payload, the low and the high part of the timestamp, the stream
id and the payload. -/
def tagBytes (tagType : UInt8) (timestampMs : UInt32) (payload : List UInt8) : List UInt8 :=
  tagType :: (ui24Bytes (UInt32.ofNat payload.length)
    ++ (ui24Bytes timestampMs ++ (timestampMs >>> 24).toUInt8 :: 0 :: 0 :: 0 :: payload))

def buildFlvTag (tagType : UInt8) (timestampMs : UInt32) (payload : List UInt8) :
    Except WriteError (List UInt8) :=
  if payload.length > ui24Max.toNat then
    .error (.invalidInput ("flv tag payload " ++ toString payload.length ++ " bytes exceeds UI24 max "
      ++ toString ui24Max.toNat))
  else .ok (tagBytes tagType timestampMs payload)

structure FlvWriter where
  /-- The sink. -/
  inner : List UInt8
  prevTagSize : UInt32
  bytesWritten : UInt64
  flags : FlvHeaderFlags
  finished : Bool
  deriving DecidableEq, Repr

/-- A fallible operation of the writer. -/
abbrev WriterM := Eff WriteError FlvWriter

namespace FlvWriter

/-- The header, and the size of the tag before the first one: there is none. -/
def new (flags : FlvHeaderFlags) : FlvWriter where
  inner := buildFlvHeader flags ++ Bytes.toBe 4 0
  prevTagSize := 0
  bytesWritten := UInt64.ofNat (buildFlvHeader flags).length + 4
  flags
  finished := false

def lastTagSize (w : FlvWriter) : UInt32 := w.prevTagSize

/-- The sink is given back. -/
def finish (w : FlvWriter) : List UInt8 := w.inner

def writePayload (tagType : UInt8) (timestampMs : UInt32) (payload : List UInt8) : WriterM Unit := do
  let finished ← Eff.gets FlvWriter.finished
  if finished then Eff.fail (.brokenPipe "FlvWriter::write_* called after finish()")
  else
    let tag ← Eff.ofExcept (buildFlvTag tagType timestampMs payload)
    let tagSize := UInt32.ofNat tag.length
    Eff.modify fun w =>
      { w with
        inner := w.inner ++ (tag ++ Bytes.toBe 4 tagSize.toNat)
        prevTagSize := tagSize
        bytesWritten := w.bytesWritten + (tagSize.toUInt64 + 4) }

def writeVideoTag (timestampMs : UInt32) (tag : VideoTag) : WriterM Unit :=
  writePayload flvTagTypeVideo timestampMs (buildVideo tag)

def writeAudioTag (timestampMs : UInt32) (tag : AudioTag) : WriterM Unit :=
  writePayload flvTagTypeAudio timestampMs (buildAudio tag)

def writeScriptData (timestampMs : UInt32) (name : String) (value : Amf0Value) : WriterM Unit :=
  writePayload flvTagTypeScriptData timestampMs (Amf.encode (.string name) ++ Amf.encode value)

def writeRawTag (tagType : UInt8) (timestampMs : UInt32) (payload : List UInt8) : WriterM Unit :=
  writePayload tagType timestampMs payload

/-- The filter bit stands beside the type. -/
def writeEncryptedTag (tagType : UInt8) (timestampMs : UInt32) (crypt : EncryptedTag) : WriterM Unit :=
  writePayload ((tagType &&& 0x1F) ||| 0x20) timestampMs crypt.encode

end FlvWriter

/-! ### Reading -/

/-- One tag of a stream. -/
inductive FlvTag where
  | audio (timestampMs : UInt32) (tag : AudioTag)
  | video (timestampMs : UInt32) (tag : VideoTag)
  | script (timestampMs : UInt32) (name : String) (value : Amf0Value)
  | unknown (tagType : UInt8) (timestampMs : UInt32) (body : List UInt8)
  | encrypted (tagType : UInt8) (timestampMs : UInt32) (crypt : EncryptedTag)

structure FlvReader where
  /-- What the source still has to give. -/
  inner : List UInt8
  flags : FlvHeaderFlags
  maxTagSize : UInt32
  lastTagSize : UInt32
  exhausted : Bool
  bytesRead : UInt64
  deriving DecidableEq, Repr

/-- Exactly `n` bytes of a source.  A source that has fewer is read to its end before that fails. -/
def readExactEof (n : ℕ) : Eff Error (List UInt8) (List UInt8) where
  run rest := if n ≤ rest.length then (.ok (rest.take n), rest.drop n) else (.error .unexpectedEof, [])

lemma readExactEof_append {n : ℕ} {bs rest : List UInt8} (hn : bs.length = n) :
    (readExactEof n).run (bs ++ rest) = (.ok bs, rest) := by
  subst hn
  simp [readExactEof]

lemma readExactEof_short {n : ℕ} {rest : List UInt8} (hn : rest.length < n) :
    (readExactEof n).run rest = (.error .unexpectedEof, []) := by
  simp [readExactEof, Nat.not_le.mpr hn]

/-- A byte in two digits. -/
def hexDigits (b : UInt8) : String :=
  String.ofList [Nat.digitChar (b.toNat / 16), Nat.digitChar (b.toNat % 16)]

/-- A tag of more than 24 bits of size cannot be. -/
def defaultMaxTagSize : UInt32 := ui24Max

/-- The header, with whatever a later version has put behind its nine bytes, and the size of the tag
before the first one. -/
def readFlvHeader (maxTagSize : UInt32) : Eff Error (List UInt8) FlvReader := do
  let header ← readExactEof 9
  if header.take 3 ≠ [0x46, 0x4C, 0x56] then
    Eff.fail (.other ("FLV: bad signature " ++ hexDigits (header.getD 0 0) ++ " "
      ++ hexDigits (header.getD 1 0) ++ " " ++ hexDigits (header.getD 2 0) ++ ", want 'F' 'L' 'V'"))
  else if header.getD 3 0 ≠ flvVersion then
    Eff.fail (.other ("FLV: unsupported version " ++ hex (header.getD 3 0) ++ ", only "
      ++ hex flvVersion ++ " (version 1) is defined"))
  else
    let dataOffset := Bytes.ofBe (header.drop 5)
    if dataOffset < flvHeaderSize.toNat then
      Eff.fail (.other ("FLV: DataOffset " ++ toString dataOffset ++ " < header size "
        ++ toString flvHeaderSize.toNat))
    else
      let extra := dataOffset - flvHeaderSize.toNat
      let _skip ← readExactEof extra
      let p0 ← readExactEof 4
      if Bytes.ofBe p0 ≠ 0 then
        Eff.fail (.other ("FLV: PreviousTagSize0 must be 0, got " ++ toString (Bytes.ofBe p0)))
      else
        let inner ← Eff.gets id
        pure
          { inner, flags := .fromByte (header.getD 4 0), maxTagSize := min maxTagSize ui24Max
            lastTagSize := 0, exhausted := false
            bytesRead := flvHeaderSize.toUInt64 + UInt64.ofNat extra + 4 }

/-- A fallible operation of the reader. -/
abbrev FlvReaderM := Eff Error FlvReader

/-- A tag whose body has not been looked at. -/
structure Frame where
  filter : UInt8
  tagType : UInt8
  timestampMs : UInt32
  body : List UInt8
  deriving DecidableEq, Repr

/-- A script tag's name and value; what stands behind them is walked through and never refused. -/
def parseScriptBody (body : List UInt8) : Except Error (String × Amf0Value) :=
  match Amf.decode body 0 with
  | (.error e, _) => .error e
  | (.ok (.string name), pos) =>
      match Amf.decode body pos with
      | (.error e, _) => .error e
      | (.ok value, _) => .ok (name, value)
  | (.ok other, _) =>
      .error (.invalidAmf0 ("script tag name must be String (§E.4.4), got " ++ other.debug))

/-- An error of a body, with the kind of body in front. -/
def inBody {α : Type} (what : String) (x : Except Error α) : Except Error α :=
  x.mapError fun e => .other (what ++ ": " ++ e.display)

/-- The tag in a frame. -/
def Frame.decode (f : Frame) : Except Error FlvTag :=
  if f.filter ≠ 0 then do
    let crypt ← inBody "FLV encrypted tag (Annex F)" (parseEncryptedBody f.body)
    pure (.encrypted f.tagType f.timestampMs crypt)
  else if f.tagType = flvTagTypeAudio then do
    let tag ← inBody "FLV audio body" (parseAudio f.body)
    pure (.audio f.timestampMs tag)
  else if f.tagType = flvTagTypeVideo then do
    let tag ← inBody "FLV video body" (parseVideo f.body)
    pure (.video f.timestampMs tag)
  else if f.tagType = flvTagTypeScriptData then
    match parseScriptBody f.body with
    | .ok (name, value) => pure (.script f.timestampMs name value)
    | .error _ => pure (.unknown f.tagType f.timestampMs f.body)
  else pure (.unknown f.tagType f.timestampMs f.body)

namespace FlvReader

def withMaxTagSize (inner : List UInt8) (maxTagSize : UInt32) : Except Error FlvReader :=
  ((readFlvHeader maxTagSize).run inner).1

def new (inner : List UInt8) : Except Error FlvReader := withMaxTagSize inner defaultMaxTagSize

/-- Exactly `n` bytes of the source. -/
def readExact (n : ℕ) : FlvReaderM (List UInt8) :=
  Eff.zoom FlvReader.inner (fun rest r => { r with inner := rest }) (readExactEof n)

/-- The first byte of a tag; the source may end in front of it. -/
def readFirst : FlvReaderM (Option UInt8) where
  run r :=
    match r.inner with
    | [] => (.ok none, { r with exhausted := true })
    | b :: rest => (.ok (some b), { r with inner := rest })

/-- Count bytes that were read. -/
def count (n : ℕ) : FlvReaderM Unit :=
  Eff.modify fun r => { r with bytesRead := r.bytesRead + UInt64.ofNat n }

/-- A body, and behind it the size of its tag. -/
def readBody (dataSize : ℕ) : FlvReaderM (List UInt8) := do
  let body ← readExact dataSize
  count dataSize
  let prev ← readExact 4
  let expected := 11 + dataSize
  if Bytes.ofBe prev ≠ expected then
    Eff.fail (.other ("FLV: PreviousTagSize " ++ toString (Bytes.ofBe prev) ++ " != 11 + DataSize "
      ++ toString expected ++ " (§E.3)"))
  else
    count 4
    Eff.modify fun r => { r with lastTagSize := UInt32.ofNat expected }
    pure body

/-- The frame behind its first byte. -/
def readFramed (rawType : UInt8) : FlvReaderM Frame := do
  let header ← readExact 10
  count 11
  let dataSize := Bytes.ofBe (header.take 3)
  let maxTagSize ← Eff.gets FlvReader.maxTagSize
  if dataSize > maxTagSize.toNat then
    Eff.fail (.other ("FLV: DataSize " ++ toString dataSize ++ " exceeds max_tag_size "
      ++ toString maxTagSize.toNat))
  else
    let tsLo := UInt32.ofNat (Bytes.ofBe ((header.drop 3).take 3))
    let tsHi := (header.getD 6 0).toUInt32
    let streamId := Bytes.ofBe (header.drop 7)
    if streamId ≠ 0 then
      Eff.fail (.other ("FLV: StreamID " ++ toString streamId ++ " != 0 (§E.4.1 'Always 0')"))
    else
      let body ← readBody dataSize
      pure
        { filter := (rawType >>> 5) &&& 0x01, tagType := rawType &&& 0x1F
          timestampMs := (tsHi <<< 24) ||| tsLo, body }

/-- The next frame, if the source has not ended. -/
def readFrame : FlvReaderM (Option Frame) := do
  let exhausted ← Eff.gets FlvReader.exhausted
  if exhausted then pure none
  else
    match ← readFirst with
    | none => pure none
    | some rawType => do
        let frame ← readFramed rawType
        pure (some frame)

/-- The next tag, if the source has not ended. -/
def readTag : FlvReaderM (Option FlvTag) := do
  match ← readFrame with
  | none => pure none
  | some frame => do
      let tag ← Eff.ofExcept frame.decode
      pure (some tag)

/-- All tags.  Every tag takes input, so the rounds are never used up. -/
def readAll : FlvReaderM (List FlvTag) := do
  let unread ← Eff.gets fun r => r.inner.length
  Eff.collect readTag (unread + 1)

end FlvReader

/-! ### Sessions of a writer -/

/-- A call of one of the methods that write a tag. -/
inductive Call where
  | video (timestampMs : UInt32) (tag : VideoTag)
  | audio (timestampMs : UInt32) (tag : AudioTag)
  | script (timestampMs : UInt32) (name : String) (value : Amf0Value)
  | raw (tagType : UInt8) (timestampMs : UInt32) (payload : List UInt8)
  | encrypted (tagType : UInt8) (timestampMs : UInt32) (crypt : EncryptedTag)

namespace Call

def run : Call → WriterM Unit
  | video timestampMs tag => FlvWriter.writeVideoTag timestampMs tag
  | audio timestampMs tag => FlvWriter.writeAudioTag timestampMs tag
  | script timestampMs name value => FlvWriter.writeScriptData timestampMs name value
  | raw tagType timestampMs payload => FlvWriter.writeRawTag tagType timestampMs payload
  | encrypted tagType timestampMs crypt => FlvWriter.writeEncryptedTag tagType timestampMs crypt

/-- The tag the call stands for. -/
def tag : Call → FlvTag
  | video timestampMs tag => .video timestampMs tag
  | audio timestampMs tag => .audio timestampMs tag
  | script timestampMs name value => .script timestampMs name value
  | raw tagType timestampMs payload => .unknown tagType timestampMs payload
  | encrypted tagType timestampMs crypt => .encrypted tagType timestampMs crypt

/-- The arguments are what the methods are for: tags that can be told from their bytes, script values
that can be written, and types that fit their field. -/
def WellFormed : Call → Prop
  | video _ tag => tag.WellFormed
  | audio _ tag => tag.WellFormed
  | script _ _ value => value.Spellable ∧ value.height ≤ maxDecodeDepth
  | raw tagType _ _ => tagType.toNat < 32 ∧ tagType ≠ flvTagTypeAudio ∧ tagType ≠ flvTagTypeVideo ∧
      tagType ≠ flvTagTypeScriptData
  | encrypted tagType _ crypt => tagType.toNat < 32 ∧ crypt.WellFormed

/-- The first byte of the tag. -/
def rawType : Call → UInt8
  | video _ _ => flvTagTypeVideo
  | audio _ _ => flvTagTypeAudio
  | script _ _ _ => flvTagTypeScriptData
  | raw tagType _ _ => tagType
  | encrypted tagType _ _ => (tagType &&& 0x1F) ||| 0x20

def timestampMs : Call → UInt32
  | video timestampMs _ | audio timestampMs _ | script timestampMs _ _ | raw _ timestampMs _
  | encrypted _ timestampMs _ => timestampMs

def payload : Call → List UInt8
  | video _ tag => buildVideo tag
  | audio _ tag => buildAudio tag
  | script _ name value => Amf.encode (.string name) ++ Amf.encode value
  | raw _ _ payload => payload
  | encrypted _ _ crypt => crypt.encode

/-- The payload's size fits its field. -/
def Fits (c : Call) : Prop := c.payload.length ≤ ui24Max.toNat

instance (c : Call) : Decidable c.Fits := Nat.decLe _ _

/-- Call after call, whatever becomes of each. -/
def session : List Call → WriterM (List (Except WriteError Unit))
  | [] => pure []
  | c :: cs => do
      let outcome ← c.run.attempt
      let outcomes ← session cs
      pure (outcome :: outcomes)

end Call

/-! ### What a session leaves in the sink -/

namespace Call

/-- A tag with its size behind it. -/
def bytes (c : Call) : List UInt8 :=
  tagBytes c.rawType c.timestampMs c.payload ++ Bytes.toBe 4 (11 + c.payload.length)

/-- How much a tag counts: its header, its payload and the size behind it. -/
def size (c : Call) : UInt64 := UInt64.ofNat c.payload.length + 15

lemma length_tagBytes {tagType : UInt8} {timestampMs : UInt32} {payload : List UInt8} :
    (tagBytes tagType timestampMs payload).length = 11 + payload.length := by
  simp only [tagBytes, ui24Bytes, List.length_cons, List.length_append, List.length_nil]
  omega

/-- All ways to write a tag come down to one. -/
lemma run_eq (c : Call) : c.run = FlvWriter.writePayload c.rawType c.timestampMs c.payload := by
  cases c <;> rfl

end Call

/-- The writer after a tag. -/
def FlvWriter.after (w : FlvWriter) (c : Call) : FlvWriter :=
  { w with
    inner := w.inner ++ c.bytes
    prevTagSize := UInt32.ofNat (11 + c.payload.length)
    bytesWritten := w.bytesWritten + c.size }

namespace Call

/-- What becomes of a call. -/
def outcome (c : Call) : Except WriteError Unit :=
  if c.Fits then .ok ()
  else .error (.invalidInput ("flv tag payload " ++ toString c.payload.length
    ++ " bytes exceeds UI24 max " ++ toString ui24Max.toNat))

variable {c : Call} {w w' : FlvWriter}

lemma run_of_fits (hc : c.Fits) (hw : w.finished = false) : c.run.run w = (.ok (), w.after c) := by
  have hlt : 11 + c.payload.length < 2 ^ 32 := by
    have hle : c.payload.length ≤ 0x00FFFFFF := hc
    omega
  have htag : buildFlvTag c.rawType c.timestampMs c.payload
      = .ok (tagBytes c.rawType c.timestampMs c.payload) := if_neg (Nat.not_lt.mpr hc)
  have hsize : (UInt32.ofNat (11 + c.payload.length)).toNat = 11 + c.payload.length :=
    UInt32.toNat_ofNat_of_lt' hlt
  have hcount : (UInt32.ofNat (11 + c.payload.length)).toUInt64 + 4 = c.size := by
    have hwide : (UInt32.ofNat (11 + c.payload.length)).toUInt64
        = UInt64.ofNat (11 + c.payload.length) :=
      UInt32.toUInt64_ofNat' hlt
    rw [hwide, UInt64.ofNat_add, UInt64.add_comm (UInt64.ofNat 11), UInt64.add_assoc]
    rfl
  rw [run_eq, FlvWriter.writePayload, Eff.run_gets_bind, hw, if_neg Bool.false_ne_true, htag,
    Eff.run_ofExcept_ok_bind, Eff.run_modify]
  simp only [length_tagBytes, hsize, hcount]
  rfl

lemma run_of_not_fits (hc : ¬ c.Fits) (hw : w.finished = false) : c.run.run w = (c.outcome, w) := by
  have htag : buildFlvTag c.rawType c.timestampMs c.payload = .error _ := if_pos (Nat.lt_of_not_le hc)
  rw [run_eq, FlvWriter.writePayload, Eff.run_gets_bind, hw, if_neg Bool.false_ne_true, htag, outcome,
    if_neg hc]
  rfl

/-- A call that failed left the writer as it was. -/
lemma run_error {e : WriteError} (h : c.run.run w = (.error e, w')) : w' = w := by
  rw [run_eq, FlvWriter.writePayload, Eff.run_gets_bind] at h
  split_ifs at h with hfinished
  · cases h
    rfl
  · cases htag : buildFlvTag c.rawType c.timestampMs c.payload with
    | error e' =>
        rw [htag] at h
        cases h
        rfl
    | ok tag =>
        rw [htag] at h
        cases h

end Call

/-- The writer after tags in a row. -/
def FlvWriter.afterAll (w : FlvWriter) (cs : List Call) : FlvWriter := cs.foldl FlvWriter.after w

namespace FlvWriter

variable {w : FlvWriter}

lemma inner_afterAll (cs : List Call) : (w.afterAll cs).inner = w.inner ++ cs.flatMap Call.bytes := by
  induction cs generalizing w with
  | nil => exact (List.append_nil _).symm
  | cons c cs ih =>
      have htail : (w.afterAll (c :: cs)).inner = ((w.after c).afterAll cs).inner := rfl
      rw [htail, ih, List.flatMap_cons, after, List.append_assoc]

lemma bytesWritten_afterAll (cs : List Call) :
    (w.afterAll cs).bytesWritten = w.bytesWritten + (cs.map Call.size).sum := by
  induction cs generalizing w with
  | nil => exact (UInt64.add_zero _).symm
  | cons c cs ih =>
      have htail : (w.afterAll (c :: cs)).bytesWritten = ((w.after c).afterAll cs).bytesWritten := rfl
      rw [htail, ih, List.map_cons, List.sum_cons, ← UInt64.add_assoc]
      rfl

end FlvWriter

/-- **Sessions**: the calls whose payload fits succeed and append their tags, the others change
nothing. -/
theorem run_session {w : FlvWriter} (hw : w.finished = false) (cs : List Call) :
    (Call.session cs).run w
      = (.ok (cs.map Call.outcome), w.afterAll (cs.filter fun c => decide c.Fits)) := by
  induction cs generalizing w with
  | nil => rfl
  | cons c cs ih =>
      rw [Call.session, Eff.run_attempt_bind]
      by_cases hc : c.Fits
      · have hafter : (w.after c).finished = false := hw
        have houtcome : c.outcome = .ok () := if_pos hc
        have hkept : (c :: cs).filter (fun c => decide c.Fits)
            = c :: cs.filter fun c => decide c.Fits := List.filter_cons_of_pos (decide_eq_true hc)
        rw [Call.run_of_fits hc hw, Eff.run_bind_ok (ih hafter), List.map_cons, houtcome, hkept]
        rfl
      · have hdropped : (c :: cs).filter (fun c => decide c.Fits)
            = cs.filter fun c => decide c.Fits :=
          List.filter_cons_of_neg (by rw [decide_eq_true_eq]; exact hc)
        rw [Call.run_of_not_fits hc hw, Eff.run_bind_ok (ih hw), List.map_cons, hdropped]
        rfl

/-! ### Frames -/

lemma ui24Bytes_ofNat {n : ℕ} (h : n < 2 ^ 32) : ui24Bytes (UInt32.ofNat n) = Bytes.toBe 3 n := by
  rw [ui24Bytes, Bytes.u24_shift_bytes, UInt32.toNat_ofNat_of_lt' h]

/-- The two parts of a timestamp. -/
lemma timestamp_parts (t : UInt32) :
    ((t >>> 24).toUInt8.toUInt32 <<< 24) ||| UInt32.ofNat (Bytes.ofBe (ui24Bytes t)) = t := by
  have ht : t.toNat < 2 ^ 32 := t.toNat_lt
  have hlow : Bytes.ofBe (ui24Bytes t) = t.toNat % 2 ^ 24 := by
    rw [ui24Bytes, Bytes.u24_shift_bytes, Bytes.ofBe_toBe_mod]
    norm_num
  have hhigh : (t >>> 24).toUInt8.toUInt32.toNat = t.toNat / 2 ^ 24 := by
    have hshift : (t >>> 24).toNat = t.toNat >>> 24 := UInt32.toNat_shiftRight t 24
    rw [UInt8.toNat_toUInt32, UInt32.toNat_toUInt8, hshift, Nat.shiftRight_eq_div_pow]
    exact Nat.mod_eq_of_lt (by omega)
  apply UInt32.toNat_inj.mp
  have hleft : ((t >>> 24).toUInt8.toUInt32 <<< 24).toNat = (t.toNat / 2 ^ 24) <<< 24 := by
    rw [UInt32.toNat_shiftLeft, hhigh]
    change (t.toNat / 2 ^ 24) <<< 24 % 2 ^ 32 = _
    rw [Nat.shiftLeft_eq]
    exact Nat.mod_eq_of_lt (by omega)
  have hmod : t.toNat % 2 ^ 24 < 2 ^ 24 := Nat.mod_lt _ (by positivity)
  have hright : (UInt32.ofNat (t.toNat % 2 ^ 24)).toNat = t.toNat % 2 ^ 24 :=
    UInt32.toNat_ofNat_of_lt' (hmod.trans (by decide))
  rw [UInt32.toNat_or, hlow, hleft, hright, ← Nat.shiftLeft_add_eq_or_of_lt hmod, Nat.shiftLeft_eq]
  omega

/-- The frame a tag is read as. -/
def Call.frame (c : Call) : Frame where
  filter := (c.rawType >>> 5) &&& 0x01
  tagType := c.rawType &&& 0x1F
  timestampMs := c.timestampMs
  body := c.payload

namespace FlvReader

/-- The reader after a tag, with `rest` left of the source. -/
def after (r : FlvReader) (rest : List UInt8) (c : Call) : FlvReader :=
  { r with
    inner := rest
    lastTagSize := UInt32.ofNat (11 + c.payload.length)
    bytesRead := r.bytesRead + c.size }

variable {r r' : FlvReader} {bs rest : List UInt8} {c : Call}

lemma run_readExact {n : ℕ} (hr : r.inner = bs ++ rest) (hn : bs.length = n) :
    (readExact n).run r = (.ok bs, { r with inner := rest }) :=
  Eff.run_zoom (by rw [hr]; exact readExactEof_append hn)

lemma run_count_bind {α : Type} {n : ℕ} {f : Unit → FlvReaderM α} :
    (count n >>= f).run r = (f ()).run { r with bytesRead := r.bytesRead + UInt64.ofNat n } := rfl

/-- A body is read with the size behind it. -/
lemma run_readBody {body prev : List UInt8} (hr : r.inner = body ++ (prev ++ rest))
    (hlen : prev.length = 4) (hprev : Bytes.ofBe prev = 11 + body.length) :
    (readBody body.length).run r = (.ok body,
      { r with
        inner := rest
        lastTagSize := UInt32.ofNat (11 + body.length)
        bytesRead := r.bytesRead + UInt64.ofNat body.length + UInt64.ofNat 4 }) := by
  have hback : (readExact 4).run
      { r with inner := prev ++ rest, bytesRead := r.bytesRead + UInt64.ofNat body.length }
        = (.ok prev,
          { r with inner := rest, bytesRead := r.bytesRead + UInt64.ofNat body.length }) :=
    run_readExact rfl hlen
  rw [readBody, Eff.run_bind_ok (run_readExact hr rfl), run_count_bind, Eff.run_bind_ok hback,
    if_neg (not_not_intro hprev)]
  rfl

/-- **Frames**: a tag with its size behind it is read as its frame. -/
lemma readFrame_bytes (hr : r.inner = c.bytes ++ rest) (hopen : r.exhausted = false)
    (hc : c.payload.length ≤ r.maxTagSize.toNat) (hfits : c.Fits) :
    readFrame.run r = (.ok (some c.frame), r.after rest c) := by
  have hlt : c.payload.length < 256 ^ 3 := by
    have hle : c.payload.length ≤ 0x00FFFFFF := hfits
    omega
  have hlt' : 11 + c.payload.length < 256 ^ 4 := by
    norm_num at hlt ⊢
    omega
  have hsize : Bytes.ofBe (ui24Bytes (UInt32.ofNat c.payload.length)) = c.payload.length := by
    rw [ui24Bytes_ofNat (hlt.trans (by norm_num)), Bytes.ofBe_toBe hlt]
  -- the ten bytes behind the first one
  let header := ui24Bytes (UInt32.ofNat c.payload.length)
    ++ (ui24Bytes c.timestampMs ++ [(c.timestampMs >>> 24).toUInt8, 0, 0, 0])
  let behind := c.payload ++ (Bytes.toBe 4 (11 + c.payload.length) ++ rest)
  have hbytes : r.inner = c.rawType :: (header ++ behind) := by
    rw [hr, Call.bytes, tagBytes]
    simp only [header, behind, List.append_assoc, List.cons_append, List.nil_append]
  have hfirst : readFirst.run r = (.ok (some c.rawType), { r with inner := header ++ behind }) := by
    rw [readFirst]
    simp only [hbytes]
  have hheader : (readExact 10).run { r with inner := header ++ behind }
      = (.ok header, { r with inner := behind }) := run_readExact rfl rfl
  have hbody : (readBody c.payload.length).run
      { r with inner := behind, bytesRead := r.bytesRead + UInt64.ofNat 11 }
        = (.ok c.payload, r.after rest c) := by
    -- the count goes up by the header, the body and the size behind it
    have hcount : r.bytesRead + UInt64.ofNat 11 + UInt64.ofNat c.payload.length + UInt64.ofNat 4
        = r.bytesRead + c.size := by
      rw [Call.size, UInt64.add_assoc r.bytesRead, UInt64.add_comm (UInt64.ofNat 11), UInt64.add_assoc,
        UInt64.add_assoc]
      rfl
    rw [run_readBody rfl (Bytes.length_toBe 4 _) (Bytes.ofBe_toBe hlt'), after, ← hcount]
  have htake : header.take 3 = ui24Bytes (UInt32.ofNat c.payload.length) := rfl
  have hlow : (header.drop 3).take 3 = ui24Bytes c.timestampMs := rfl
  have hhigh : header.getD 6 0 = (c.timestampMs >>> 24).toUInt8 := rfl
  have hstream : Bytes.ofBe (header.drop 7) = 0 := rfl
  -- both checks pass: the size is allowed and the stream id zero
  have hframed : (readFramed c.rawType).run { r with inner := header ++ behind }
      = (.ok c.frame, r.after rest c) := by
    rw [readFramed, Eff.run_bind_ok hheader, run_count_bind, Eff.run_gets_bind]
    simp only [htake, hlow, hhigh, hstream, hsize, timestamp_parts]
    rw [if_neg (Nat.not_lt.mpr hc), if_neg (not_not_intro rfl), Eff.run_bind_ok hbody]
    rfl
  rw [readFrame, Eff.run_gets_bind, hopen, if_neg Bool.false_ne_true, Eff.run_bind_ok hfirst]
  exact Eff.run_bind_ok hframed

/-- At the end of the source there is no more frame. -/
lemma readFrame_nil (hr : r.inner = []) :
    readFrame.run r = (.ok none, { r with exhausted := true }) := by
  rw [readFrame, Eff.run_gets_bind]
  cases hexhausted : r.exhausted with
  | true =>
      rw [if_pos rfl, ← hexhausted]
      rfl
  | false =>
      have hfirst : readFirst.run r = (.ok none, { r with exhausted := true }) := by
        rw [readFirst]
        simp only [hr]
      rw [if_neg Bool.false_ne_true, Eff.run_bind_ok hfirst]
      rfl

lemma readTag_of_frame {f : Frame} {t : FlvTag} (hframe : readFrame.run r = (.ok (some f), r'))
    (hdecode : f.decode = .ok t) : readTag.run r = (.ok (some t), r') := by
  rw [readTag, Eff.run_bind_ok hframe]
  dsimp only
  rw [hdecode]
  rfl

lemma readTag_nil (hr : r.inner = []) : readTag.run r = (.ok none, { r with exhausted := true }) := by
  rw [readTag, Eff.run_bind_ok (readFrame_nil hr)]
  rfl

end FlvReader

/-! ### Bodies -/

section Bodies

open Amf (Reads RefTable)

variable {body u u' : List UInt8} {refs refs' : RefTable} {name : String} {value : Amf0Value}

/-- A name and a value in a row are a script body, whatever comes behind. -/
lemma parseScriptBody_of_reads
    (hname : Reads maxDecodeDepth [] body (.value (.string name)) refs u)
    (hvalue : Reads maxDecodeDepth [] u (.value value) refs' u') :
    parseScriptBody body = .ok (name, value) := by
  obtain ⟨pos, hfirst, hdrop⟩ := @Amf.decode_of_reads body u 0 refs (.string name) hname
  rw [← hdrop] at hvalue
  obtain ⟨pos', hsecond, -⟩ := Amf.decode_of_reads hvalue
  rw [parseScriptBody, hfirst]
  dsimp only
  rw [hsecond]

/-- A script payload is read back. -/
lemma parseScriptBody_encode (hname : (Utf8.encode name).length < 2 ^ 32) (hvalue : value.Spellable)
    (hheight : value.height ≤ maxDecodeDepth) :
    parseScriptBody (Amf.encode (.string name) ++ Amf.encode value) = .ok (name, value) := by
  have hstring : (Amf0Value.string name).height ≤ maxDecodeDepth := by
    rw [Amf.height_of_complexes rfl]
    decide
  have hreads : Reads maxDecodeDepth [] (Amf.encode value ++ []) (.value value) _ [] :=
    Amf.reads_encode value hvalue hheight
  rw [List.append_nil] at hreads
  exact parseScriptBody_of_reads (Amf.reads_encode (.string name) hname hstring) hreads

end Bodies

namespace Call

lemma raw_parts : ∀ n < 32, (UInt8.ofNat n >>> 5) &&& 0x01 = 0 ∧
    UInt8.ofNat n &&& 0x1F = UInt8.ofNat n := by
  decide +kernel

lemma encrypted_parts : ∀ n < 32,
    (((UInt8.ofNat n &&& 0x1F) ||| 0x20) >>> 5) &&& 0x01 = 1 ∧
      ((UInt8.ofNat n &&& 0x1F) ||| 0x20) &&& 0x1F = UInt8.ofNat n := by
  decide +kernel

/-- The name of a script tag is in its payload. -/
lemma length_name_lt {timestampMs : UInt32} {name : String} {value : Amf0Value}
    (hc : (script timestampMs name value).Fits) : (Utf8.encode name).length < 2 ^ 32 := by
  have hpayload : (Amf.encode (.string name) ++ Amf.encode value).length ≤ 0x00FFFFFF := hc
  have hname : (Utf8.encode name).length ≤ (Amf.encode (.string name)).length := by
    rw [Amf.encode]
    split_ifs
    · rw [List.length_cons, Amf.writeUtf8Short, List.length_append]
      omega
    · rw [List.length_cons, Amf.writeUtf8Long, List.length_append]
      omega
  rw [List.length_append] at hpayload
  omega

end Call

namespace Frame

variable {f : Frame}

lemma decode_encrypted {crypt : EncryptedTag} (hfilter : f.filter ≠ 0)
    (h : parseEncryptedBody f.body = .ok crypt) :
    f.decode = .ok (.encrypted f.tagType f.timestampMs crypt) := by
  rw [decode, if_pos hfilter, h]
  rfl

lemma decode_audio {tag : AudioTag} (hfilter : f.filter = 0) (htype : f.tagType = flvTagTypeAudio)
    (h : parseAudio f.body = .ok tag) : f.decode = .ok (.audio f.timestampMs tag) := by
  rw [decode, if_neg (not_not_intro hfilter), if_pos htype, h]
  rfl

lemma decode_video {tag : VideoTag} (hfilter : f.filter = 0) (htype : f.tagType = flvTagTypeVideo)
    (h : parseVideo f.body = .ok tag) : f.decode = .ok (.video f.timestampMs tag) := by
  rw [decode, if_neg (not_not_intro hfilter), htype, if_neg (by decide), if_pos rfl, h]
  rfl

lemma decode_script {name : String} {value : Amf0Value} (hfilter : f.filter = 0)
    (htype : f.tagType = flvTagTypeScriptData) (h : parseScriptBody f.body = .ok (name, value)) :
    f.decode = .ok (.script f.timestampMs name value) := by
  rw [decode, if_neg (not_not_intro hfilter), htype, if_neg (by decide), if_neg (by decide),
    if_pos rfl, h]
  rfl

/-- A frame of a type that says nothing of its body, or with a script body that is none. -/
lemma decode_unknown (hfilter : f.filter = 0) (haudio : f.tagType ≠ flvTagTypeAudio)
    (hvideo : f.tagType ≠ flvTagTypeVideo)
    (hscript : f.tagType = flvTagTypeScriptData → ∃ e, parseScriptBody f.body = .error e) :
    f.decode = .ok (.unknown f.tagType f.timestampMs f.body) := by
  rw [decode, if_neg (not_not_intro hfilter), if_neg haudio, if_neg hvideo]
  split_ifs with htype
  · obtain ⟨e, he⟩ := hscript htype
    rw [he]
    rfl
  · rfl

end Frame

/-- **Bodies**: the frame of a call with well-formed arguments has the call's tag in it. -/
theorem Call.decode_frame {c : Call} (h : c.WellFormed) (hc : c.Fits) : c.frame.decode = .ok c.tag := by
  cases c with
  | video timestampMs tag =>
      exact Frame.decode_video (by decide : (flvTagTypeVideo >>> 5) &&& 0x01 = 0)
        (by decide : flvTagTypeVideo &&& 0x1F = flvTagTypeVideo) (parseVideo_buildVideo_of_wellFormed h)
  | audio timestampMs tag =>
      exact Frame.decode_audio (by decide : (flvTagTypeAudio >>> 5) &&& 0x01 = 0)
        (by decide : flvTagTypeAudio &&& 0x1F = flvTagTypeAudio) (parseAudio_buildAudio_of_wellFormed h)
  | script timestampMs name value =>
      exact Frame.decode_script (by decide : (flvTagTypeScriptData >>> 5) &&& 0x01 = 0)
        (by decide : flvTagTypeScriptData &&& 0x1F = flvTagTypeScriptData)
        (parseScriptBody_encode (length_name_lt hc) h.1 h.2)
  | raw tagType timestampMs payload =>
      obtain ⟨hlt, haudio, hvideo, hscript⟩ := h
      obtain ⟨hfilter, htype⟩ := raw_parts _ hlt
      rw [UInt8.ofNat_toNat] at hfilter htype
      -- the type has no filter bit, and is none of the known ones
      have hframe : (raw tagType timestampMs payload).frame = ⟨0, tagType, timestampMs, payload⟩ := by
        rw [frame, rawType, hfilter, htype]
        rfl
      rw [hframe]
      exact Frame.decode_unknown rfl haudio hvideo fun heq => absurd heq hscript
  | encrypted tagType timestampMs crypt =>
      obtain ⟨hlt, hcrypt⟩ := h
      obtain ⟨hfilter, htype⟩ := encrypted_parts _ hlt
      rw [UInt8.ofNat_toNat] at hfilter htype
      -- the filter bit is set apart from the type, and hides it
      have hframe : (encrypted tagType timestampMs crypt).frame
          = ⟨1, tagType, timestampMs, crypt.encode⟩ := by
        rw [frame, rawType, hfilter, htype]
        rfl
      rw [hframe]
      exact Frame.decode_encrypted (by decide : (1 : UInt8) ≠ 0) (parseEncryptedBody_encode hcrypt)

/-! ### What a reader gets -/

/-- **Frames in a row**: a reader gets the tags that the frames decode to, and counts every byte. -/
theorem collects_frames {r : FlvReader} {cs : List Call} (hr : r.inner = cs.flatMap Call.bytes)
    (hopen : r.exhausted = false)
    (hcs : ∀ c ∈ cs, c.payload.length ≤ r.maxTagSize.toNat ∧ c.Fits ∧ c.frame.decode = .ok c.tag) :
    ∃ r', Eff.Collects FlvReader.readTag r (cs.map Call.tag) r' ∧ r'.inner = [] ∧
      r'.exhausted = true ∧ r'.bytesRead = r.bytesRead + (cs.map Call.size).sum := by
  induction cs generalizing r with
  | nil =>
      refine ⟨_, .done (FlvReader.readTag_nil hr), hr, rfl, ?_⟩
      exact (UInt64.add_zero _).symm
  | cons c cs ih =>
      obtain ⟨hc, hfits, hdecode⟩ := hcs c List.mem_cons_self
      rw [List.flatMap_cons] at hr
      have hframe := FlvReader.readFrame_bytes hr hopen hc hfits
      obtain ⟨r', hcollects, hinner, hexhausted, hcount⟩ := @ih (r.after (cs.flatMap Call.bytes) c) rfl
        hopen fun c' hc' => hcs c' (List.mem_cons_of_mem c hc')
      refine ⟨r', .more (FlvReader.readTag_of_frame hframe hdecode) hcollects, hinner, hexhausted, ?_⟩
      rw [hcount, List.map_cons, List.sum_cons, ← UInt64.add_assoc]
      rfl

/-- The header is read, up to the first tag. -/
lemma withMaxTagSize_new {flags : FlvHeaderFlags} {rest : List UInt8} {maxTagSize : UInt32} :
    FlvReader.withMaxTagSize ((FlvWriter.new flags).inner ++ rest) maxTagSize
      = .ok ⟨rest, flags, min maxTagSize ui24Max, 0, false, (FlvWriter.new flags).bytesWritten⟩ := by
  have hheader : (readExactEof 9).run (buildFlvHeader flags ++ (Bytes.toBe 4 0 ++ rest))
      = (.ok (buildFlvHeader flags), Bytes.toBe 4 0 ++ rest) := readExactEof_append rfl
  -- the header says nine bytes, so nothing is skipped
  have hskip : (readExactEof 0).run (Bytes.toBe 4 0 ++ rest) = (.ok [], Bytes.toBe 4 0 ++ rest) := rfl
  have hprev : (readExactEof 4).run (Bytes.toBe 4 0 ++ rest) = (.ok (Bytes.toBe 4 0), rest) :=
    readExactEof_append rfl
  have hsignature : (buildFlvHeader flags).take 3 = [0x46, 0x4C, 0x56] := rfl
  have hversion : (buildFlvHeader flags).getD 3 0 = flvVersion := rfl
  have hoffset : Bytes.ofBe ((buildFlvHeader flags).drop 5) = flvHeaderSize.toNat := by
    have hbytes : (buildFlvHeader flags).drop 5 = Bytes.toBe 4 flvHeaderSize.toNat := rfl
    rw [hbytes]
    exact Bytes.ofBe_toBe (by decide)
  have hflags : FlvHeaderFlags.fromByte ((buildFlvHeader flags).getD 4 0) = flags := by
    have hbyte : (buildFlvHeader flags).getD 4 0 = flags.toByte := rfl
    rw [hbyte]
    obtain ⟨audio, video⟩ := flags
    cases audio <;> cases video <;> rfl
  have hzero : Bytes.ofBe (Bytes.toBe 4 0) = 0 := Bytes.ofBe_toBe (by decide)
  rw [FlvReader.withMaxTagSize, FlvWriter.new, List.append_assoc, readFlvHeader,
    Eff.run_bind_ok hheader, if_neg (not_not_intro hsignature), if_neg (not_not_intro hversion)]
  simp only [hoffset, Nat.sub_self, lt_irrefl, if_false]
  rw [Eff.run_bind_ok hskip, Eff.run_bind_ok hprev, if_neg (not_not_intro hzero), Eff.run_gets_bind,
    hflags]
  rfl

/-- All tags are read in as many rounds as there is input. -/
lemma run_readAll {r r' : FlvReader} {tags : List FlvTag}
    (h : Eff.Collects FlvReader.readTag r tags r') (hlen : tags.length ≤ r.inner.length) :
    FlvReader.readAll.run r = (.ok tags, r') :=
  (Eff.run_gets_bind _ _ _).trans (h.run (Nat.lt_succ_of_le hlen))

lemma length_le_bytes (cs : List Call) : cs.length ≤ (cs.flatMap Call.bytes).length := by
  induction cs with
  | nil => exact Nat.le_refl 0
  | cons c cs ih =>
      rw [List.length_cons, List.flatMap_cons, List.length_append, Call.bytes, List.length_append,
        Call.length_tagBytes]
      omega

/-- The tags behind a header are read back by a reader that takes their sizes. -/
lemma readAll_afterAll {flags : FlvHeaderFlags} {cs : List Call} {maxTagSize : UInt32}
    (hcs : ∀ c ∈ cs, c.payload.length ≤ maxTagSize.toNat ∧ c.Fits ∧ c.frame.decode = .ok c.tag) :
    ∃ r r', FlvReader.withMaxTagSize ((FlvWriter.new flags).afterAll cs).finish maxTagSize = .ok r ∧
      r.flags = flags ∧ FlvReader.readAll.run r = (.ok (cs.map Call.tag), r') ∧ r'.exhausted = true ∧
      r'.bytesRead = ((FlvWriter.new flags).afterAll cs).bytesWritten := by
  have hopen := @withMaxTagSize_new flags (cs.flatMap Call.bytes) maxTagSize
  rw [← FlvWriter.inner_afterAll] at hopen
  have hcap : ∀ c ∈ cs, c.payload.length ≤ (min maxTagSize ui24Max).toNat ∧ c.Fits ∧
      c.frame.decode = .ok c.tag := by
    intro c hc
    obtain ⟨hle, hfits, hdecode⟩ := hcs c hc
    refine ⟨?_, hfits, hdecode⟩
    have hmin : min maxTagSize ui24Max = if maxTagSize ≤ ui24Max then maxTagSize else ui24Max := rfl
    rw [hmin]
    split_ifs
    · exact hle
    · exact hfits
  obtain ⟨r', hcollects, -, hexhausted, hcount⟩ := @collects_frames
    ⟨cs.flatMap Call.bytes, flags, min maxTagSize ui24Max, 0, false, (FlvWriter.new flags).bytesWritten⟩
    cs rfl rfl hcap
  refine ⟨_, r', hopen, rfl, run_readAll hcollects ?_, hexhausted, ?_⟩
  · rw [List.length_map]
    exact length_le_bytes cs
  · rw [FlvWriter.bytesWritten_afterAll]
    exact hcount

/-- **Round trip**: after any calls with well-formed arguments a reader gets the tags of the calls
that succeeded and the end of the stream, and counts the bytes that the writer counted; and a call
that fails leaves the writer as it was. -/
theorem readAll_session (flags : FlvHeaderFlags) (cs : List Call) (hcs : ∀ c ∈ cs, c.WellFormed) :
    (∃ outcomes w, (Call.session cs).run (FlvWriter.new flags) = (.ok outcomes, w) ∧
      outcomes.length = cs.length ∧
      ∃ r r', FlvReader.new w.finish = .ok r ∧ r.flags = flags ∧
        FlvReader.readAll.run r
          = (.ok (((cs.zip outcomes).filter fun p => decide (p.2 = .ok ())).map fun p => p.1.tag), r') ∧
        FlvReader.readTag.run r' = (.ok none, r') ∧ r'.bytesRead = w.bytesWritten) ∧
    ∀ c ∈ cs, ∀ w e w', c.run.run w = (.error e, w') →
      w'.inner = w.inner ∧ w'.bytesWritten = w.bytesWritten ∧ w'.lastTagSize = w.lastTagSize := by
  refine ⟨⟨_, _, run_session rfl cs, List.length_map .., ?_⟩, ?_⟩
  · have hkept : ∀ c ∈ cs.filter fun c => decide c.Fits,
        c.payload.length ≤ defaultMaxTagSize.toNat ∧ c.Fits ∧ c.frame.decode = .ok c.tag := by
      intro c hc
      obtain ⟨hmem, hfits⟩ := List.mem_filter.mp hc
      have hfits : c.Fits := of_decide_eq_true hfits
      exact ⟨hfits, hfits, Call.decode_frame (hcs c hmem) hfits⟩
    obtain ⟨r, r', hopen, hflags, hread, hexhausted, hcount⟩ := readAll_afterAll hkept
    refine ⟨r, r', hopen, hflags, ?_, ?_, hcount⟩
    · rw [hread]
      refine congrArg (fun tags => ((.ok tags : Except Error (List FlvTag)), r')) ?_
      -- what is kept and what succeeded go through the list together
      clear hkept hopen hread hcount hcs
      induction cs with
      | nil => rfl
      | cons c cs ih =>
          rw [List.map_cons, List.zip_cons_cons, List.filter_cons, List.filter_cons]
          by_cases hc : c.Fits
          · have houtcome : c.outcome = .ok () := if_pos hc
            simp only [decide_eq_true hc, houtcome, if_true, decide_true, List.map_cons, ih]
          · have houtcome : c.outcome ≠ .ok () := by
              rw [Call.outcome, if_neg hc]
              exact nofun
            simp only [hc, houtcome, decide_false, Bool.false_eq_true, if_false, ih]
    · rw [FlvReader.readTag, FlvReader.readFrame, Eff.run_bind_ok]
      rotate_left 1
      · rw [Eff.run_gets_bind, hexhausted, if_pos rfl]
        rfl
      · rfl
  · -- a failed call checks before it writes
    intro c _ w e w' h
    rw [Call.run_error h]
    exact ⟨rfl, rfl, rfl⟩

/-- A script, a selective envelope and a payload that is too large between two others. -/
theorem readAll_session_oversized :
    let value : Amf0Value := .ecmaArray [("width", .number ⟨0⟩)]
    let crypt : EncryptedTag := ⟨filterNameSelective, .selective none, [0xAA]⟩
    let cs : List Call := [.script 0 "onMetaData" value, .raw 5 1 (List.replicate (2 ^ 24) 0),
      .encrypted 9 0xFFFFFFFF crypt]
    ∃ outcomes w, (Call.session cs).run (FlvWriter.new ⟨true, true⟩) = (.ok outcomes, w) ∧
      outcomes.length = cs.length ∧
      ∃ r r', FlvReader.new w.finish = .ok r ∧ r.flags = ⟨true, true⟩ ∧
        FlvReader.readAll.run r
          = (.ok (((cs.zip outcomes).filter fun p => decide (p.2 = .ok ())).map fun p => p.1.tag), r') ∧
        FlvReader.readTag.run r' = (.ok none, r') ∧ r'.bytesRead = w.bytesWritten := by
  intro value crypt cs
  refine (readAll_session ⟨true, true⟩ cs ?_).1
  intro c hc
  simp only [cs, List.mem_cons, List.not_mem_nil, or_false] at hc
  rcases hc with rfl | rfl | rfl
  · exact ⟨⟨⟨by decide, by decide⟩, trivial, trivial⟩, by decide⟩
  · exact ⟨by decide, by decide, by decide, by decide⟩
  · exact ⟨by decide, rfl⟩

end Rtmp.Flv
