import Rtmp.Flv.ExHeader

/-!
Video tags: the payload of a video message.

* `VideoTag`, `parseVideo`, `buildVideo`: legacy tags, enhanced tags and multitrack tags, whose first
  byte tells them apart;
* `VideoTag.WellFormed`: the four layouts, each with what it carries and nothing else;
* `parseVideo_buildVideo_iff`: a tag is read back if and only if it is well formed;
* `parseVideo_buildVideo` (**round trip**): a tag that was read is read back, and is built into the
  payload it came from when no modifier's size is escaped without need.
-/

namespace Rtmp.Flv

def videoFrameCommand : UInt8 := 5

def videoCodecAvc : UInt8 := 7

def avcPacketTypeNalu : UInt8 := 1

def videoIsExHeader : UInt8 := 0x80

def exPacketTypeCodedFrames : UInt8 := 1

def exPacketTypeMetadata : UInt8 := 4

def exPacketTypeMultitrack : UInt8 := 6

def exPacketTypeModEx : UInt8 := 7

/-- `hvc1` -/
def fourccHevc : FourCc := ⟨0x68, 0x76, 0x63, 0x31⟩

/-- `avc1` -/
def fourccAvc : FourCc := ⟨0x61, 0x76, 0x63, 0x31⟩

/-- `vvc1` -/
def fourccVvc : FourCc := ⟨0x76, 0x76, 0x63, 0x31⟩

structure VideoTag where
  frameType : UInt8
  codecId : UInt8
  avcPacketType : Option UInt8
  compositionTime : Int32
  body : List UInt8
  exPacketType : Option UInt8
  fourcc : Option FourCc
  modEx : List ModEx
  multitrack : Option Multitrack
  deriving DecidableEq, Repr

def VideoTag.isExMetadata (tag : VideoTag) : Bool :=
  tag.fourcc.isSome && tag.exPacketType = some exPacketTypeMetadata

/-- A signed number of 24 bits; the bits above are those of `-0x0100_0000`. -/
def signExtendSi24 (raw : ℕ) : Int32 :=
  if raw &&& 0x00800000 ≠ 0 then (UInt32.ofNat (raw ||| 0xFF000000)).toInt32
  else (UInt32.ofNat raw).toInt32

/-- The low 24 bits. -/
def si24Bytes (n : Int32) : List UInt8 := Bytes.toBe 3 (n.toUInt32.toNat &&& 0x00FFFFFF)

/-- A composition time follows the FourCC: coded frames of three codecs, and no command. -/
def needsCts (frameType packetType : UInt8) (fcc : FourCc) : Bool :=
  !(frameType = videoFrameCommand && packetType ≠ exPacketTypeMetadata)
    && packetType = exPacketTypeCodedFrames
    && (fcc = fourccHevc || fcc = fourccAvc || fcc = fourccVvc)

/-- The composition time, where there is one. -/
def parseCts (onWire : Bool) : Eff Error (List UInt8) Int32 :=
  if onWire then do
    let raw ← Scan.uintBe 3 (.other "Enhanced RTMP / HEVC CodedFrames: need 3 bytes for SI24 CTS")
    pure (signExtendSi24 raw)
  else pure 0

def parseExVideo (b0 : UInt8) : Eff Error (List UInt8) VideoTag := do
  let frameType := (b0 >>> 4) &&& 0x07
  let h ← parseExHeader "video" exPacketTypeModEx exPacketTypeMultitrack (b0 &&& 0x0F)
  match h.multitrackType with
  | some mtType => do
      let mt ← Multitrack.parse mtType
      pure
        { frameType, codecId := 0, avcPacketType := none, compositionTime := 0, body := []
          exPacketType := some h.packetType, fourcc := h.fourcc, modEx := h.modEx
          multitrack := some mt }
  | none => do
      let fcc := h.fourcc.getD .zero
      let compositionTime ← parseCts (needsCts frameType h.packetType fcc)
      let body ← Scan.all
      pure
        { frameType, codecId := 0, avcPacketType := none, compositionTime, body
          exPacketType := some h.packetType, fourcc := some fcc, modEx := h.modEx
          multitrack := none }

def parseLegacyVideo (b0 : UInt8) : Eff Error (List UInt8) VideoTag := do
  let frameType := b0 >>> 4
  let codecId := b0 &&& 0x0F
  if frameType = videoFrameCommand then
    let body ← Scan.all
    pure
      { frameType, codecId, avcPacketType := none, compositionTime := 0, body, exPacketType := none
        fourcc := none, modEx := [], multitrack := none }
  else if codecId = videoCodecAvc then
    let bs ← Scan.bytes 4 fun _ => .other "FLV/AVC tag: need 5+ bytes"
    let body ← Scan.all
    pure
      { frameType, codecId, avcPacketType := some (bs.getD 0 0)
        compositionTime := signExtendSi24 (Bytes.ofBe (bs.drop 1)), body, exPacketType := none
        fourcc := none, modEx := [], multitrack := none }
  else
    let body ← Scan.all
    pure
      { frameType, codecId, avcPacketType := none, compositionTime := 0, body, exPacketType := none
        fourcc := none, modEx := [], multitrack := none }

def readVideo : Eff Error (List UInt8) VideoTag := do
  let b0 ← Scan.byte (.other "FLV video tag: empty")
  if b0 &&& videoIsExHeader ≠ 0 then parseExVideo b0 else parseLegacyVideo b0

def parseVideo (payload : List UInt8) : Except Error VideoTag := (readVideo.run payload).1

/-- The first byte of an enhanced tag. -/
def exVideoHead (frameType headerPt : UInt8) : UInt8 :=
  videoIsExHeader ||| ((frameType &&& 0x07) <<< 4) ||| (headerPt &&& 0x0F)

/-- The first byte of a legacy tag. -/
def legacyVideoHead (frameType codecId : UInt8) : UInt8 := (frameType <<< 4) ||| (codecId &&& 0x0F)

/-- The header that the fields of a tag give. -/
def VideoTag.exHeader (tag : VideoTag) : ExHeader where
  modEx := tag.modEx
  multitrackType := tag.multitrack.map Multitrack.multitrackType
  packetType := tag.exPacketType.getD exPacketTypeCodedFrames
  fourcc := tag.fourcc

/-- What follows the header of an enhanced tag. -/
def VideoTag.exBody (tag : VideoTag) : List UInt8 :=
  match tag.multitrack with
  | some mt => mt.encode
  | none =>
      (if needsCts tag.frameType tag.exHeader.packetType (tag.fourcc.getD .zero) then
        si24Bytes tag.compositionTime else []) ++ tag.body

def buildVideo (tag : VideoTag) : List UInt8 :=
  if tag.fourcc.isSome ∨ tag.multitrack.isSome then
    exVideoHead tag.frameType (tag.exHeader.headerPt exPacketTypeModEx exPacketTypeMultitrack)
      :: (tag.exHeader.build exPacketTypeModEx exPacketTypeMultitrack ++ tag.exBody)
  else
    legacyVideoHead tag.frameType tag.codecId
      :: ((if tag.codecId = videoCodecAvc ∧ tag.frameType ≠ videoFrameCommand then
          tag.avcPacketType.getD avcPacketTypeNalu :: si24Bytes tag.compositionTime else [])
            ++ tag.body)

/-- No modifier's size in the payload is escaped without need. -/
def shortVideoSizes (payload : List UInt8) : Bool :=
  match payload with
  | [] => true
  | b0 :: rest =>
      b0 &&& videoIsExHeader = 0 || b0 &&& 0x0F ≠ exPacketTypeModEx
        || shortSizes exPacketTypeModEx (rest.length + 1) rest

/-- A signed number of 24 bits. -/
def InSi24 (n : Int32) : Prop := -2 ^ 23 ≤ n.toInt ∧ n.toInt < 2 ^ 23

/-- The layouts of a video tag: what a layout does not carry has the value the parser gives it. -/
inductive VideoTag.WellFormed : VideoTag → Prop
  | legacy {frameType codecId body} (hframe : frameType.toNat < 8) (hcodec : codecId.toNat < 16)
      (hplain : frameType = videoFrameCommand ∨ codecId ≠ videoCodecAvc) :
      WellFormed ⟨frameType, codecId, none, 0, body, none, none, [], none⟩
  | avc {frameType packetType cts body} (hframe : frameType.toNat < 8)
      (hcommand : frameType ≠ videoFrameCommand) (hcts : InSi24 cts) :
      WellFormed ⟨frameType, videoCodecAvc, some packetType, cts, body, none, none, [], none⟩
  | enhanced {frameType cts body packetType fourcc modEx} (hframe : frameType.toNat < 8)
      (hheader : ExHeader.WellFormed ⟨modEx, none, packetType, some fourcc⟩ exPacketTypeModEx
        exPacketTypeMultitrack)
      (hcts : if needsCts frameType packetType fourcc then InSi24 cts else cts = 0) :
      WellFormed ⟨frameType, 0, none, cts, body, some packetType, some fourcc, modEx, none⟩
  | multitrack {frameType packetType fourcc modEx mt} (hframe : frameType.toNat < 8)
      (hheader : ExHeader.WellFormed ⟨modEx, some mt.multitrackType, packetType, fourcc⟩
        exPacketTypeModEx exPacketTypeMultitrack) (htracks : mt.WellFormed) :
      WellFormed ⟨frameType, 0, none, 0, [], some packetType, fourcc, modEx, some mt⟩

/-! ### Composition times -/

section Si24

lemma mask24 (v : ℕ) : v &&& 0x00FFFFFF = v % 2 ^ 24 := Nat.and_two_pow_sub_one_eq_mod v 24

lemma or_high {raw : ℕ} (h : raw < 2 ^ 24) : raw ||| 0xFF000000 = raw + 255 * 2 ^ 24 := by
  have hadd := Nat.shiftLeft_add_eq_or_of_lt (b := raw) h 255
  rw [Nat.or_comm, ← show 255 <<< 24 = 0xFF000000 from rfl, ← hadd, Nat.shiftLeft_eq]
  omega

/-- Bit 23 decides. -/
lemma signExtendSi24_eq {raw : ℕ} (h : raw < 2 ^ 24) :
    signExtendSi24 raw
      = (UInt32.ofNat (if raw < 2 ^ 23 then raw else raw + 255 * 2 ^ 24)).toInt32 := by
  have hbit : raw &&& 0x00800000 = if raw.testBit 23 then 2 ^ 23 else 0 := Bytes.and_two_pow _ 23
  rw [signExtendSi24, hbit, or_high h]
  by_cases hlow : raw < 2 ^ 23
  · rw [Nat.testBit_lt_two_pow hlow, if_neg Bool.false_ne_true, if_neg (not_not_intro rfl),
      if_pos hlow]
  · have htest : raw.testBit 23 = true := by
      rw [Nat.testBit_eq_decide_div_mod_eq, decide_eq_true_eq]
      omega
    rw [htest, if_pos rfl, if_pos (by decide), if_neg hlow]

lemma toInt_toInt32 (v : UInt32) :
    v.toInt32.toInt = if 2 * v.toNat < 2 ^ 32 then (v.toNat : ℤ) else (v.toNat : ℤ) - (2 ^ 32 : ℕ) :=
  BitVec.toInt_eq_toNat_cond v.toBitVec

lemma toInt_eq_toNat (n : Int32) :
    n.toInt = if 2 * n.toUInt32.toNat < 2 ^ 32 then (n.toUInt32.toNat : ℤ)
      else (n.toUInt32.toNat : ℤ) - (2 ^ 32 : ℕ) := BitVec.toInt_eq_toNat_cond n.toBitVec

lemma inSi24_signExtendSi24 {raw : ℕ} (h : raw < 2 ^ 24) : InSi24 (signExtendSi24 raw) := by
  rw [InSi24, signExtendSi24_eq h, toInt_toInt32, UInt32.toNat_ofNat']
  split_ifs <;> omega

/-- A composition time that was read is written as it was. -/
lemma si24Bytes_signExtendSi24 {raw : ℕ} (h : raw < 2 ^ 24) :
    si24Bytes (signExtendSi24 raw) = Bytes.toBe 3 raw := by
  have hlow : (signExtendSi24 raw).toUInt32.toNat % 2 ^ 24 = raw := by
    rw [signExtendSi24_eq h, UInt32.toUInt32_toInt32, UInt32.toNat_ofNat']
    split_ifs <;> omega
  rw [si24Bytes, mask24, hlow]

/-- A composition time in range is read as it was. -/
lemma signExtendSi24_low {n : Int32} (h : InSi24 n) :
    signExtendSi24 (n.toUInt32.toNat % 2 ^ 24) = n := by
  obtain ⟨hlo, hhi⟩ := h
  have hn := toInt_eq_toNat n
  have hlt : n.toUInt32.toNat < 2 ^ 32 := n.toUInt32.toNat_lt
  have hback : (UInt32.ofNat n.toUInt32.toNat).toInt32 = n := by
    rw [UInt32.ofNat_toNat, Int32.toInt32_toUInt32]
  have hwhole : (if n.toUInt32.toNat % 2 ^ 24 < 2 ^ 23 then n.toUInt32.toNat % 2 ^ 24
      else n.toUInt32.toNat % 2 ^ 24 + 255 * 2 ^ 24) = n.toUInt32.toNat := by
    split_ifs at hn ⊢ <;> omega
  rw [signExtendSi24_eq (Nat.mod_lt _ (by positivity)), hwhole, hback]

end Si24

/-! ### First bytes -/

section Heads

lemma exVideoHead_lt : ∀ f < 8, ∀ pt < 16,
    exVideoHead (UInt8.ofNat f) (UInt8.ofNat pt) &&& videoIsExHeader ≠ 0 ∧
      (exVideoHead (UInt8.ofNat f) (UInt8.ofNat pt) >>> 4) &&& 0x07 = UInt8.ofNat f ∧
      exVideoHead (UInt8.ofNat f) (UInt8.ofNat pt) &&& 0x0F = UInt8.ofNat pt := by
  decide +kernel

lemma exVideoHead_fields {frameType pt : UInt8} (hf : frameType.toNat < 8) (hpt : pt.toNat < 16) :
    exVideoHead frameType pt &&& videoIsExHeader ≠ 0 ∧
      (exVideoHead frameType pt >>> 4) &&& 0x07 = frameType ∧
      exVideoHead frameType pt &&& 0x0F = pt := by
  have h := exVideoHead_lt _ hf _ hpt
  rwa [UInt8.ofNat_toNat, UInt8.ofNat_toNat] at h

lemma exVideoHead_split : ∀ b : UInt8, b &&& videoIsExHeader ≠ 0 →
    exVideoHead ((b >>> 4) &&& 0x07) (b &&& 0x0F) = b :=
  Bytes.forall_byte (by decide +kernel)

lemma toNat_frameType_lt : ∀ b : UInt8, ((b >>> 4) &&& 0x07).toNat < 8 :=
  Bytes.forall_byte (by decide +kernel)

lemma legacyVideoHead_lt : ∀ f < 8, ∀ c < 16,
    legacyVideoHead (UInt8.ofNat f) (UInt8.ofNat c) &&& videoIsExHeader = 0 ∧
      legacyVideoHead (UInt8.ofNat f) (UInt8.ofNat c) >>> 4 = UInt8.ofNat f ∧
      legacyVideoHead (UInt8.ofNat f) (UInt8.ofNat c) &&& 0x0F = UInt8.ofNat c := by
  decide +kernel

lemma legacyVideoHead_fields {frameType codecId : UInt8} (hf : frameType.toNat < 8)
    (hc : codecId.toNat < 16) :
    legacyVideoHead frameType codecId &&& videoIsExHeader = 0 ∧
      legacyVideoHead frameType codecId >>> 4 = frameType ∧
      legacyVideoHead frameType codecId &&& 0x0F = codecId := by
  have h := legacyVideoHead_lt _ hf _ hc
  rwa [UInt8.ofNat_toNat, UInt8.ofNat_toNat] at h

lemma legacyVideoHead_split : ∀ b : UInt8, b &&& videoIsExHeader = 0 →
    legacyVideoHead (b >>> 4) (b &&& 0x0F) = b ∧ (b >>> 4).toNat < 8 :=
  Bytes.forall_byte (by decide +kernel)

end Heads

/-! ### Round trips -/

/-- The header of an enhanced tag is read back, and its first byte says how to read it. -/
lemma readVideo_enhanced (tag : VideoTag)
    (henhanced : tag.fourcc.isSome ∨ tag.multitrack.isSome) (hframe : tag.frameType.toNat < 8)
    (hheader : tag.exHeader.WellFormed exPacketTypeModEx exPacketTypeMultitrack) :
    parseVideo (buildVideo tag) = ((match tag.exHeader.multitrackType with
      | some mtType => do
          let mt ← Multitrack.parse mtType
          pure
            { frameType := tag.frameType, codecId := 0, avcPacketType := none, compositionTime := 0
              body := [], exPacketType := some tag.exHeader.packetType, fourcc := tag.fourcc
              modEx := tag.modEx, multitrack := some mt }
      | none => do
          let fcc := tag.fourcc.getD .zero
          let compositionTime ← parseCts (needsCts tag.frameType tag.exHeader.packetType fcc)
          let body ← Scan.all
          pure
            { frameType := tag.frameType, codecId := 0, avcPacketType := none, compositionTime, body
              exPacketType := some tag.exHeader.packetType, fourcc := some fcc, modEx := tag.modEx
              multitrack := none } : Eff Error (List UInt8) VideoTag).run tag.exBody).1 := by
  obtain ⟨hflag, hf, hpt⟩ := exVideoHead_fields hframe
    (hheader.toNat_headerPt_lt (by decide) (by decide))
  -- the prelude comes back, and leaves what this header goes on with
  have hrun : (parseExHeader "video" _ _ _).run (_ ++ tag.exBody) = _ :=
    parse_buildExHeader hheader (by decide) (by decide) (by decide)
  rw [parseVideo, buildVideo, if_pos henhanced, readVideo, Eff.run_bind_ok Scan.byte_cons,
    if_pos hflag, parseExVideo]
  simp only [hf, hpt]
  rw [Eff.run_bind_ok hrun]
  rfl

lemma parseCts_append {onWire : Bool} {cts : Int32} {u : List UInt8}
    (hcts : if onWire then InSi24 cts else cts = 0) :
    (parseCts onWire).run ((if onWire then si24Bytes cts else []) ++ u) = (.ok cts, u) := by
  cases onWire with
  | false =>
      rw [if_neg Bool.false_ne_true] at hcts ⊢
      rw [hcts]
      rfl
  | true =>
      rw [if_pos rfl] at hcts ⊢
      have hraw : cts.toUInt32.toNat % 2 ^ 24 < 256 ^ 3 :=
        (Nat.mod_lt _ (by positivity)).trans_eq (by norm_num)
      rw [parseCts, if_pos rfl, si24Bytes, mask24, Eff.run_bind_ok (Scan.uintBe_append hraw),
        signExtendSi24_low hcts]
      rfl

lemma parseCts_eq_ok {onWire : Bool} {cts : Int32} {rest u : List UInt8}
    (h : (parseCts onWire).run rest = (.ok cts, u)) :
    (if onWire then InSi24 cts else cts = 0) ∧
      rest = (if onWire then si24Bytes cts else []) ++ u := by
  rw [parseCts] at h
  split_ifs at h ⊢ with hwire
  · obtain ⟨raw, rest', hraw, h⟩ := Eff.run_bind_eq_ok.mp h
    cases h
    obtain ⟨hlt, hrest⟩ := Scan.uintBe_eq_ok.mp hraw
    have hlt : raw < 2 ^ 24 := hlt.trans_eq (by norm_num)
    exact ⟨inSi24_signExtendSi24 hlt, by rw [si24Bytes_signExtendSi24 hlt, hrest]⟩
  · cases h
    exact ⟨rfl, rfl⟩

theorem parseVideo_buildVideo_of_wellFormed {tag : VideoTag} (h : tag.WellFormed) :
    parseVideo (buildVideo tag) = .ok tag := by
  cases h with
  | @legacy frameType codecId body hframe hcodec hplain =>
      obtain ⟨hflag, hf, hc⟩ := legacyVideoHead_fields hframe hcodec
      have hcond : ¬ (codecId = videoCodecAvc ∧ frameType ≠ videoFrameCommand) :=
        fun hboth => hplain.elim hboth.2 fun hne => hne hboth.1
      rw [parseVideo, buildVideo, if_neg (by simp), if_neg hcond, List.nil_append, readVideo,
        Eff.run_bind_ok Scan.byte_cons, if_neg (not_not_intro hflag), parseLegacyVideo]
      simp only [hf, hc]
      split_ifs with h1 h2
      · rfl
      · exact absurd ⟨h2, h1⟩ hcond
      · rfl
  | @avc frameType packetType cts body hframe hcommand hcts =>
      obtain ⟨hflag, hf, hc⟩ := legacyVideoHead_fields hframe (by decide : videoCodecAvc.toNat < 16)
      -- the offset is cut to three bytes and its sign comes back
      have hraw : cts.toUInt32.toNat % 2 ^ 24 < 256 ^ 3 :=
        (Nat.mod_lt _ (by positivity)).trans_eq (by norm_num)
      have hlen : (packetType :: si24Bytes cts).length = 4 := by
        rw [si24Bytes, List.length_cons, Bytes.length_toBe]
      rw [parseVideo, buildVideo, if_neg (by simp), if_pos ⟨rfl, hcommand⟩, Option.getD_some, readVideo,
        Eff.run_bind_ok Scan.byte_cons, if_neg (not_not_intro hflag), parseLegacyVideo]
      simp only [hf, hc, if_neg hcommand, if_true]
      rw [Eff.run_bind_ok (Scan.bytes_append hlen), si24Bytes, mask24]
      have hback : signExtendSi24 (Bytes.ofBe
          ((packetType :: Bytes.toBe 3 (cts.toUInt32.toNat % 2 ^ 24)).drop 1)) = cts := by
        rw [List.drop_one, List.tail_cons, Bytes.ofBe_toBe hraw, signExtendSi24_low hcts]
      rw [hback]
      rfl
  | @enhanced frameType cts body packetType fourcc modEx hframe hheader hcts =>
      rw [readVideo_enhanced ⟨frameType, 0, none, cts, body, some packetType, some fourcc, modEx, none⟩
        (.inl rfl) hframe hheader]
      exact congrArg Prod.fst ((Eff.run_bind_ok (parseCts_append hcts)).trans rfl)
  | @multitrack frameType packetType fourcc modEx mt hframe hheader htracks =>
      rw [readVideo_enhanced ⟨frameType, 0, none, 0, [], some packetType, fourcc, modEx, some mt⟩
        (.inr rfl) hframe hheader]
      exact congrArg Prod.fst ((Eff.run_bind_ok (Multitrack.parse_encode htracks)).trans rfl)

/-- The bytes of an enhanced tag, from the first byte and the header that were read. -/
lemma buildVideo_enhanced {tag : VideoTag} {b0 : UInt8} {rest rest₁ : List UInt8}
    (henhanced : tag.fourcc.isSome ∨ tag.multitrack.isSome)
    (hframe : tag.frameType = (b0 >>> 4) &&& 0x07) (hflag : b0 &&& videoIsExHeader ≠ 0)
    (hhead : b0 &&& 0x0F = tag.exHeader.headerPt exPacketTypeModEx exPacketTypeMultitrack)
    (hbuilt : (b0 &&& 0x0F = exPacketTypeModEx →
      shortSizes exPacketTypeModEx (rest.length + 1) rest = true) →
        rest = tag.exHeader.build exPacketTypeModEx exPacketTypeMultitrack ++ rest₁)
    (hbody : rest₁ = tag.exBody) (hshort : shortVideoSizes (b0 :: rest) = true) :
    buildVideo tag = b0 :: rest := by
  have hsizes : b0 &&& 0x0F = exPacketTypeModEx →
      shortSizes exPacketTypeModEx (rest.length + 1) rest = true := by
    intro hmod
    rw [shortVideoSizes, decide_eq_false hflag, Bool.false_or, hmod] at hshort
    simpa using hshort
  rw [buildVideo, if_pos henhanced, hframe, ← hhead, exVideoHead_split b0 hflag, ← hbody,
    ← hbuilt hsizes]

lemma parseExVideo_eq_ok {b0 : UInt8} {rest u : List UInt8} {tag : VideoTag}
    (hflag : b0 &&& videoIsExHeader ≠ 0) (h : (parseExVideo b0).run rest = (.ok tag, u)) :
    tag.WellFormed ∧ (shortVideoSizes (b0 :: rest) = true → buildVideo tag = b0 :: rest) := by
  obtain ⟨⟨modEx, multitrackType, packetType, fourcc⟩, rest₁, hheader, h⟩ := Eff.run_bind_eq_ok.mp h
  obtain ⟨hwell, hhead, hbuilt⟩ := parseExHeader_eq_ok (toNat_low_lt b0) hheader
  have hframe := toNat_frameType_lt b0
  cases multitrackType with
  | some mtType =>
      obtain ⟨mt, rest₂, hmt, h⟩ := Eff.run_bind_eq_ok.mp h
      cases h
      obtain ⟨htracks, rfl, hrest, -⟩ := Multitrack.parse_eq_ok (hwell.type_lt _ rfl) hmt
      exact ⟨.multitrack hframe hwell htracks,
        buildVideo_enhanced (.inr rfl) rfl hflag hhead hbuilt hrest⟩
  | none =>
      obtain ⟨f, rfl⟩ : ∃ f, fourcc = some f :=
        Option.ne_none_iff_exists'.mp fun hnone => by simpa using hwell.fourcc.mp hnone
      obtain ⟨cts, rest₂, hcts, h⟩ := Eff.run_bind_eq_ok.mp h
      obtain ⟨body, rest₃, hbody, h⟩ := Eff.run_bind_eq_ok.mp h
      cases hbody
      cases h
      obtain ⟨hrange, hrest⟩ := parseCts_eq_ok hcts
      exact ⟨.enhanced hframe hwell hrange,
        buildVideo_enhanced (.inl rfl) rfl hflag hhead hbuilt hrest⟩

lemma parseLegacyVideo_eq_ok {b0 : UInt8} {rest u : List UInt8} {tag : VideoTag}
    (hflag : b0 &&& videoIsExHeader = 0) (h : (parseLegacyVideo b0).run rest = (.ok tag, u)) :
    tag.WellFormed ∧ buildVideo tag = b0 :: rest := by
  obtain ⟨hsplit, hframe⟩ := legacyVideoHead_split b0 hflag
  have hcodec := toNat_low_lt b0
  rw [parseLegacyVideo] at h
  -- a command frame has no AVC header, even with that codec
  by_cases hcommand : b0 >>> 4 = videoFrameCommand
  · simp only [if_pos hcommand] at h
    cases h
    refine ⟨.legacy hframe hcodec (.inl hcommand), ?_⟩
    rw [buildVideo, if_neg (by simp), if_neg fun hboth => hboth.2 hcommand, hsplit]
    rfl
  · by_cases havc : b0 &&& 0x0F = videoCodecAvc
    · simp only [if_neg hcommand, if_pos havc] at h
      obtain ⟨bs, rest₁, hbs, h⟩ := Eff.run_bind_eq_ok.mp h
      obtain ⟨body, rest₂, hbody, h⟩ := Eff.run_bind_eq_ok.mp h
      cases hbody
      cases h
      obtain ⟨hlen, hrest⟩ := Scan.bytes_eq_ok.mp hbs
      obtain ⟨a, b, c, d, rfl⟩ := List.length_eq_four.mp hlen
      have hlt : Bytes.ofBe [b, c, d] < 2 ^ 24 := (Bytes.ofBe_lt [b, c, d]).trans_eq (by norm_num)
      refine ⟨?_, ?_⟩
      · rw [havc]
        exact .avc hframe hcommand (inSi24_signExtendSi24 hlt)
      · have hcts : si24Bytes (signExtendSi24 (Bytes.ofBe [b, c, d])) = [b, c, d] := by
          rw [si24Bytes_signExtendSi24 hlt]
          exact Bytes.toBe_ofBe [b, c, d]
        rw [buildVideo, if_neg (by simp), if_pos ⟨havc, hcommand⟩, hsplit, hrest]
        simp only [List.drop_one, List.tail_cons, hcts]
        rfl
    · simp only [if_neg hcommand, if_neg havc] at h
      cases h
      refine ⟨.legacy hframe hcodec (.inr havc), ?_⟩
      rw [buildVideo, if_neg (by simp), if_neg fun hboth => havc hboth.1, hsplit]
      rfl

/-- A payload that was read gives a well-formed tag, and is the one built from it when no modifier's
size is escaped without need. -/
theorem parseVideo_eq_ok {payload : List UInt8} {tag : VideoTag} (h : parseVideo payload = .ok tag) :
    tag.WellFormed ∧ (shortVideoSizes payload = true → buildVideo tag = payload) := by
  obtain ⟨s, hs⟩ : ∃ s, readVideo.run payload = (.ok tag, s) := ⟨_, Prod.ext h rfl⟩
  obtain ⟨b0, rest, hb0, hs⟩ := Eff.run_bind_eq_ok.mp hs
  rw [Scan.byte_eq_ok.mp hb0]
  by_cases hflag : b0 &&& videoIsExHeader = 0
  · rw [if_neg (not_not_intro hflag)] at hs
    obtain ⟨hwell, hbuilt⟩ := parseLegacyVideo_eq_ok hflag hs
    exact ⟨hwell, fun _ => hbuilt⟩
  · rw [if_pos hflag] at hs
    exact parseExVideo_eq_ok hflag hs

/-- The modifiers of a well-formed tag are well formed. -/
lemma VideoTag.WellFormed.modEx {tag : VideoTag} (h : tag.WellFormed) :
    ∀ e ∈ tag.modEx, e.WellFormed := by
  cases h with
  | legacy => exact fun e he => absurd he List.not_mem_nil
  | avc => exact fun e he => absurd he List.not_mem_nil
  | enhanced _ hheader _ => exact hheader.modEx
  | multitrack _ hheader _ => exact hheader.modEx

/-- A tag is read back if and only if it is well formed. -/
theorem parseVideo_buildVideo_iff {tag : VideoTag} :
    parseVideo (buildVideo tag) = .ok tag ↔ tag.WellFormed :=
  ⟨fun h => (parseVideo_eq_ok h).1, parseVideo_buildVideo_of_wellFormed⟩

/-- **Round trip**: a tag that was read is read back, and is built into the payload it came from when
no modifier's size is escaped without need; and the tags that are read back are the well-formed
ones. -/
theorem parseVideo_buildVideo :
    (∀ payload tag, parseVideo payload = .ok tag →
      parseVideo (buildVideo tag) = .ok tag ∧
        (shortVideoSizes payload = true → buildVideo tag = payload)) ∧
    ∀ tag : VideoTag, tag.WellFormed ↔ parseVideo (buildVideo tag) = .ok tag := by
  refine ⟨fun payload tag h => ?_, fun tag => parseVideo_buildVideo_iff.symm⟩
  obtain ⟨hwell, hbuilt⟩ := parseVideo_eq_ok h
  exact ⟨parseVideo_buildVideo_of_wellFormed hwell, hbuilt⟩

/-- A coded frame behind a modifier, and a row of two tracks. -/
theorem parseVideo_buildVideo_modified :
    let payload : List UInt8 :=
      [0x97, 0x02, 0, 0, 5, 0x01, 0x68, 0x76, 0x63, 0x31, 0xFF, 0xFF, 0xFE, 0xAA]
    let tag : VideoTag := ⟨1, 0, none, -2, [0xAA], some 1, some fourccHevc, [⟨0, [0, 0, 5]⟩], none⟩
    let tracks : VideoTag :=
      ⟨1, 0, none, 0, [], some 1, some fourccAvc, [], some ⟨1, [⟨none, 0, [1]⟩, ⟨none, 1, [2, 3]⟩]⟩⟩
    (parseVideo (buildVideo tag) = .ok tag ∧ buildVideo tag = payload) ∧
      parseVideo (buildVideo tracks) = .ok tracks := by
  intro payload tag tracks
  obtain ⟨hback, hbuilt⟩ := parseVideo_buildVideo.1 payload tag (by decide +kernel)
  have htracks : Multitrack.WellFormed ⟨1, [⟨none, 0, [1]⟩, ⟨none, 1, [2, 3]⟩]⟩ := by
    refine ⟨by decide, by decide, by decide, fun t ht => ?_⟩
    rcases List.mem_pair.mp ht with rfl | rfl
    · exact ⟨by decide, by decide⟩
    · exact ⟨by decide, by decide⟩
  have hheader : ExHeader.WellFormed ⟨[], some 1, 1, some fourccAvc⟩ exPacketTypeModEx
      exPacketTypeMultitrack := by
    refine ⟨fun e he => absurd he List.not_mem_nil, ?_, by decide, by decide, by decide, by decide⟩
    rintro ty ⟨⟩
    decide
  exact ⟨⟨hback, hbuilt rfl⟩,
    (parseVideo_buildVideo.2 tracks).mp (.multitrack (by decide) hheader htracks)⟩

/-- **A wide type**: a modifier type above the nibble that carries it does not come back. -/
theorem parseVideo_buildVideo_wideType :
    let tag : VideoTag := ⟨1, 0, none, 0, [], some 0, some fourccHevc, [⟨16, [0]⟩], none⟩
    (tag.frameType.toNat < 8 ∧ tag.codecId = 0 ∧ tag.avcPacketType = none ∧ tag.compositionTime = 0 ∧
      (∃ packetType, tag.exPacketType = some packetType ∧ packetType.toNat < 16 ∧
        packetType ≠ exPacketTypeModEx ∧ packetType ≠ exPacketTypeMultitrack) ∧
      (∀ e ∈ tag.modEx, 1 ≤ e.data.length ∧ e.data.length ≤ 65536) ∧ tag.multitrack = none) ∧
      parseVideo (buildVideo tag) ≠ .ok tag := by
  intro tag
  have hpacket : ∃ packetType, tag.exPacketType = some packetType ∧ packetType.toNat < 16 ∧
      packetType ≠ exPacketTypeModEx ∧ packetType ≠ exPacketTypeMultitrack :=
    ⟨0, rfl, by decide, by decide, by decide⟩
  refine ⟨⟨by decide, rfl, rfl, rfl, hpacket, by decide, rfl⟩, fun h => ?_⟩
  have hmodEx := (parseVideo_buildVideo_iff.mp h).modEx ⟨16, [0]⟩ List.mem_cons_self
  exact absurd hmodEx.1 (by decide)

end Rtmp.Flv
