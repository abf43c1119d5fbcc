import Rtmp.Flv.ExHeader

/-!
Audio messages: silence, or the payload of an audio tag.

* `AudioTag`, `parseAudio`, `buildAudio`: legacy tags, enhanced tags and multitrack tags;
* `AudioMessage`, `parseAudioMessage`, `buildAudioMessage`: the empty payload stands for silence;
* `AudioMessage.WellFormed`: the layouts, each with what it carries and nothing else;
* `parseAudioMessage_buildAudioMessage_iff`: a message is read back if and only if it is well formed;
* `parseAudioMessage_buildAudioMessage` (**round trip**): a message that was read is read back, and is
  built into the payload it came from when no modifier's size is escaped without need.
-/

namespace Rtmp.Flv

def audioFormatAac : UInt8 := 10

def audioFormatExHeader : UInt8 := 9

def audioPacketTypeCodedFrames : UInt8 := 1

def audioPacketTypeMultitrack : UInt8 := 5

def audioPacketTypeModEx : UInt8 := 7

def aacPacketTypeRaw : UInt8 := 1

structure AudioTag where
  soundFormat : UInt8
  soundRate : UInt8
  soundSize16bit : Bool
  stereo : Bool
  aacPacketType : Option UInt8
  exPacketType : Option UInt8
  audioFourcc : Option FourCc
  body : List UInt8
  modEx : List ModEx
  multitrack : Option Multitrack
  deriving DecidableEq, Repr

/-- An enhanced tag; the legacy fields of the first byte are not interpreted. -/
def parseExAudio (b0 : UInt8) : Eff Error (List UInt8) AudioTag := do
  let soundFormat := b0 >>> 4
  let h ← parseExHeader "audio" audioPacketTypeModEx audioPacketTypeMultitrack (b0 &&& 0x0F)
  match h.multitrackType with
  | some mtType => do
      let mt ← Multitrack.parse mtType
      pure
        { soundFormat, soundRate := 0, soundSize16bit := false, stereo := false, aacPacketType := none
          exPacketType := some h.packetType, audioFourcc := h.fourcc, body := [], modEx := h.modEx
          multitrack := some mt }
  | none => do
      let fcc := h.fourcc.getD .zero
      let body ← Scan.all
      pure
        { soundFormat, soundRate := 0, soundSize16bit := false, stereo := false, aacPacketType := none
          exPacketType := some h.packetType, audioFourcc := some fcc, body, modEx := h.modEx
          multitrack := none }

def parseLegacyAudio (b0 : UInt8) : Eff Error (List UInt8) AudioTag := do
  let soundFormat := b0 >>> 4
  let soundRate := (b0 >>> 2) &&& 0x03
  let soundSize16bit := decide (b0 &&& 0x02 ≠ 0)
  let stereo := decide (b0 &&& 0x01 ≠ 0)
  if soundFormat = audioFormatAac then
    let packetType ← Scan.byte (.other "FLV/AAC tag: need 2+ bytes")
    let body ← Scan.all
    pure
      { soundFormat, soundRate, soundSize16bit, stereo, aacPacketType := some packetType
        exPacketType := none, audioFourcc := none, body, modEx := [], multitrack := none }
  else
    let body ← Scan.all
    pure
      { soundFormat, soundRate, soundSize16bit, stereo, aacPacketType := none, exPacketType := none
        audioFourcc := none, body, modEx := [], multitrack := none }

def readAudio : Eff Error (List UInt8) AudioTag := do
  let b0 ← Scan.byte (.other "FLV audio tag: empty")
  if b0 >>> 4 = audioFormatExHeader then parseExAudio b0 else parseLegacyAudio b0

def parseAudio (payload : List UInt8) : Except Error AudioTag := (readAudio.run payload).1

/-- The first byte of an enhanced tag. -/
def exAudioHead (headerPt : UInt8) : UInt8 := (audioFormatExHeader <<< 4) ||| (headerPt &&& 0x0F)

/-- The first byte of a legacy tag. -/
def legacyAudioHead (soundFormat soundRate : UInt8) (soundSize16bit stereo : Bool) : UInt8 :=
  (soundFormat <<< 4) ||| ((soundRate &&& 0x03) <<< 2) ||| (if soundSize16bit then 0x02 else 0)
    ||| (if stereo then 0x01 else 0)

/-- The header that the fields of a tag give. -/
def AudioTag.exHeader (tag : AudioTag) : ExHeader where
  modEx := tag.modEx
  multitrackType := tag.multitrack.map Multitrack.multitrackType
  packetType := tag.exPacketType.getD audioPacketTypeCodedFrames
  fourcc := tag.audioFourcc

/-- What follows the header of an enhanced tag. -/
def AudioTag.exBody (tag : AudioTag) : List UInt8 :=
  match tag.multitrack with
  | some mt => mt.encode
  | none => tag.body

def buildAudio (tag : AudioTag) : List UInt8 :=
  if tag.audioFourcc.isSome ∨ tag.multitrack.isSome then
    exAudioHead (tag.exHeader.headerPt audioPacketTypeModEx audioPacketTypeMultitrack)
      :: (tag.exHeader.build audioPacketTypeModEx audioPacketTypeMultitrack ++ tag.exBody)
  else
    legacyAudioHead tag.soundFormat tag.soundRate tag.soundSize16bit tag.stereo
      :: ((if tag.soundFormat = audioFormatAac then [tag.aacPacketType.getD aacPacketTypeRaw] else [])
        ++ tag.body)

/-- A message without any byte is silence. -/
inductive AudioMessage where
  | tag (t : AudioTag)
  | silence
  deriving DecidableEq, Repr

def parseAudioMessage (payload : List UInt8) : Except Error AudioMessage :=
  if payload.isEmpty then .ok .silence else (parseAudio payload).map .tag

def buildAudioMessage : AudioMessage → List UInt8
  | .silence => []
  | .tag t => buildAudio t

/-- No modifier's size in the payload is escaped without need. -/
def shortAudioSizes (payload : List UInt8) : Bool :=
  match payload with
  | [] => true
  | b0 :: rest =>
      b0 >>> 4 ≠ audioFormatExHeader || b0 &&& 0x0F ≠ audioPacketTypeModEx
        || shortSizes audioPacketTypeModEx (rest.length + 1) rest

/-- The layouts of an audio tag: what a layout does not carry has the value the parser gives it. -/
inductive AudioTag.WellFormed : AudioTag → Prop
  | legacy {soundFormat soundRate soundSize16bit stereo body} (hformat : soundFormat.toNat < 16)
      (hlegacy : soundFormat ≠ audioFormatExHeader) (haac : soundFormat ≠ audioFormatAac)
      (hrate : soundRate.toNat < 4) :
      WellFormed ⟨soundFormat, soundRate, soundSize16bit, stereo, none, none, none, body, [], none⟩
  | aac {soundRate soundSize16bit stereo packetType body} (hrate : soundRate.toNat < 4) :
      WellFormed ⟨audioFormatAac, soundRate, soundSize16bit, stereo, some packetType, none, none, body,
        [], none⟩
  | enhanced {body packetType fourcc modEx}
      (hheader : ExHeader.WellFormed ⟨modEx, none, packetType, some fourcc⟩ audioPacketTypeModEx
        audioPacketTypeMultitrack) :
      WellFormed ⟨audioFormatExHeader, 0, false, false, none, some packetType, some fourcc, body, modEx,
        none⟩
  | multitrack {packetType fourcc modEx mt}
      (hheader : ExHeader.WellFormed ⟨modEx, some mt.multitrackType, packetType, fourcc⟩
        audioPacketTypeModEx audioPacketTypeMultitrack) (htracks : mt.WellFormed) :
      WellFormed ⟨audioFormatExHeader, 0, false, false, none, some packetType, fourcc, [], modEx,
        some mt⟩

/-- Silence, or a well-formed tag. -/
def AudioMessage.WellFormed : AudioMessage → Prop
  | .silence => True
  | .tag t => t.WellFormed

/-! ### First bytes -/

section Heads

lemma exAudioHead_lt : ∀ pt < 16, exAudioHead (UInt8.ofNat pt) >>> 4 = audioFormatExHeader ∧
    exAudioHead (UInt8.ofNat pt) &&& 0x0F = UInt8.ofNat pt := by
  decide +kernel

lemma exAudioHead_fields {pt : UInt8} (hpt : pt.toNat < 16) :
    exAudioHead pt >>> 4 = audioFormatExHeader ∧ exAudioHead pt &&& 0x0F = pt := by
  have h := exAudioHead_lt _ hpt
  rwa [UInt8.ofNat_toNat] at h

lemma exAudioHead_split : ∀ b : UInt8, b >>> 4 = audioFormatExHeader →
    exAudioHead (b &&& 0x0F) = b :=
  Bytes.forall_byte (by decide +kernel)

lemma legacyAudioHead_lt : ∀ f < 16, ∀ r < 4, ∀ size stereo : Bool,
    let head := legacyAudioHead (UInt8.ofNat f) (UInt8.ofNat r) size stereo
    head >>> 4 = UInt8.ofNat f ∧ (head >>> 2) &&& 0x03 = UInt8.ofNat r ∧
      decide (head &&& 0x02 ≠ 0) = size ∧ decide (head &&& 0x01 ≠ 0) = stereo := by
  decide +kernel

lemma legacyAudioHead_fields {soundFormat soundRate : UInt8} (hf : soundFormat.toNat < 16)
    (hr : soundRate.toNat < 4) (size stereo : Bool) :
    let head := legacyAudioHead soundFormat soundRate size stereo
    head >>> 4 = soundFormat ∧ (head >>> 2) &&& 0x03 = soundRate ∧
      decide (head &&& 0x02 ≠ 0) = size ∧ decide (head &&& 0x01 ≠ 0) = stereo := by
  have h := legacyAudioHead_lt _ hf _ hr size stereo
  rwa [UInt8.ofNat_toNat, UInt8.ofNat_toNat] at h

lemma legacyAudioHead_split : ∀ b : UInt8,
    legacyAudioHead (b >>> 4) ((b >>> 2) &&& 0x03) (decide (b &&& 0x02 ≠ 0))
      (decide (b &&& 0x01 ≠ 0)) = b ∧ (b >>> 4).toNat < 16 ∧ ((b >>> 2) &&& 0x03).toNat < 4 :=
  Bytes.forall_byte (by decide +kernel)

end Heads

/-! ### Round trips -/

/-- The header of an enhanced tag is read back. -/
lemma readAudio_enhanced (tag : AudioTag)
    (henhanced : tag.audioFourcc.isSome ∨ tag.multitrack.isSome)
    (hheader : tag.exHeader.WellFormed audioPacketTypeModEx audioPacketTypeMultitrack) :
    parseAudio (buildAudio tag) = ((match tag.exHeader.multitrackType with
      | some mtType => do
          let mt ← Multitrack.parse mtType
          pure
            { soundFormat := audioFormatExHeader, soundRate := 0, soundSize16bit := false
              stereo := false, aacPacketType := none, exPacketType := some tag.exHeader.packetType
              audioFourcc := tag.audioFourcc, body := [], modEx := tag.modEx, multitrack := some mt }
      | none => do
          let fcc := tag.audioFourcc.getD .zero
          let body ← Scan.all
          pure
            { soundFormat := audioFormatExHeader, soundRate := 0, soundSize16bit := false
              stereo := false, aacPacketType := none, exPacketType := some tag.exHeader.packetType
              audioFourcc := some fcc, body, modEx := tag.modEx, multitrack := none } :
        Eff Error (List UInt8) AudioTag).run tag.exBody).1 := by
  have hlt : (tag.exHeader.headerPt audioPacketTypeModEx audioPacketTypeMultitrack).toNat < 16 :=
    hheader.toNat_headerPt_lt (by decide) (by decide)
  obtain ⟨hf, hpt⟩ := exAudioHead_fields hlt
  -- the prelude comes back, and leaves what this header goes on with
  have hrun : (parseExHeader "audio" _ _ _).run (_ ++ tag.exBody) = _ :=
    parse_buildExHeader hheader (by decide) (by decide) (by decide)
  rw [parseAudio, buildAudio, if_pos henhanced, readAudio, Eff.run_bind_ok Scan.byte_cons,
    if_pos hf, parseExAudio]
  simp only [hf, hpt]
  rw [Eff.run_bind_ok hrun]
  rfl

theorem parseAudio_buildAudio_of_wellFormed {tag : AudioTag} (h : tag.WellFormed) :
    parseAudio (buildAudio tag) = .ok tag := by
  cases h with
  | @legacy soundFormat soundRate size stereo body hformat hlegacy haac hrate =>
      obtain ⟨hf, hr, hsize, hstereo⟩ := legacyAudioHead_fields hformat hrate size stereo
      rw [parseAudio, buildAudio, if_neg (by simp), if_neg haac, List.nil_append, readAudio,
        Eff.run_bind_ok Scan.byte_cons, hf, if_neg hlegacy, parseLegacyAudio]
      simp only [hf, hr, hsize, hstereo, if_neg haac]
      rfl
  | @aac soundRate size stereo packetType body hrate =>
      obtain ⟨hf, hr, hsize, hstereo⟩ :=
        legacyAudioHead_fields (by decide : audioFormatAac.toNat < 16) hrate size stereo
      rw [parseAudio, buildAudio, if_neg (by simp), if_pos rfl, readAudio,
        Eff.run_bind_ok Scan.byte_cons, hf, if_neg (by decide), parseLegacyAudio]
      simp only [hf, hr, hsize, hstereo, if_true]
      rfl
  | @enhanced body packetType fourcc modEx hheader =>
      rw [readAudio_enhanced ⟨audioFormatExHeader, 0, false, false, none, some packetType, some fourcc,
        body, modEx, none⟩ (.inl rfl) hheader]
      rfl
  | @multitrack packetType fourcc modEx mt hheader htracks =>
      rw [readAudio_enhanced ⟨audioFormatExHeader, 0, false, false, none, some packetType, fourcc, [],
        modEx, some mt⟩ (.inr rfl) hheader]
      exact congrArg Prod.fst ((Eff.run_bind_ok (Multitrack.parse_encode htracks)).trans rfl)

/-- The bytes of an enhanced tag, from the first byte and the header that were read. -/
lemma buildAudio_enhanced {tag : AudioTag} {b0 : UInt8} {rest rest₁ : List UInt8}
    (henhanced : tag.audioFourcc.isSome ∨ tag.multitrack.isSome)
    (hformat : b0 >>> 4 = audioFormatExHeader)
    (hhead : b0 &&& 0x0F = tag.exHeader.headerPt audioPacketTypeModEx audioPacketTypeMultitrack)
    (hbuilt : (b0 &&& 0x0F = audioPacketTypeModEx →
      shortSizes audioPacketTypeModEx (rest.length + 1) rest = true) →
        rest = tag.exHeader.build audioPacketTypeModEx audioPacketTypeMultitrack ++ rest₁)
    (hbody : rest₁ = tag.exBody) (hshort : shortAudioSizes (b0 :: rest) = true) :
    buildAudio tag = b0 :: rest := by
  have hsizes : b0 &&& 0x0F = audioPacketTypeModEx →
      shortSizes audioPacketTypeModEx (rest.length + 1) rest = true := by
    intro hmod
    rw [shortAudioSizes, hformat, hmod] at hshort
    simpa using hshort
  rw [buildAudio, if_pos henhanced, ← hhead, exAudioHead_split b0 hformat, ← hbody, ← hbuilt hsizes]

lemma parseExAudio_eq_ok {b0 : UInt8} {rest u : List UInt8} {tag : AudioTag}
    (hformat : b0 >>> 4 = audioFormatExHeader) (h : (parseExAudio b0).run rest = (.ok tag, u)) :
    tag.WellFormed ∧ (shortAudioSizes (b0 :: rest) = true → buildAudio tag = b0 :: rest) := by
  obtain ⟨⟨modEx, multitrackType, packetType, fourcc⟩, rest₁, hheader, h⟩ := Eff.run_bind_eq_ok.mp h
  obtain ⟨hwell, hhead, hbuilt⟩ := parseExHeader_eq_ok (toNat_low_lt b0) hheader
  cases multitrackType with
  | some mtType =>
      obtain ⟨mt, rest₂, hmt, h⟩ := Eff.run_bind_eq_ok.mp h
      cases h
      obtain ⟨htracks, rfl, hrest, -⟩ := Multitrack.parse_eq_ok (hwell.type_lt _ rfl) hmt
      rw [hformat]
      exact ⟨.multitrack hwell htracks, buildAudio_enhanced (.inr rfl) hformat hhead hbuilt hrest⟩
  | none =>
      obtain ⟨f, rfl⟩ : ∃ f, fourcc = some f :=
        Option.ne_none_iff_exists'.mp fun hnone => by simpa using hwell.fourcc.mp hnone
      obtain ⟨body, rest₂, hbody, h⟩ := Eff.run_bind_eq_ok.mp h
      cases hbody
      cases h
      rw [hformat]
      exact ⟨.enhanced hwell, buildAudio_enhanced (.inl rfl) hformat hhead hbuilt rfl⟩

lemma parseLegacyAudio_eq_ok {b0 : UInt8} {rest u : List UInt8} {tag : AudioTag}
    (hlegacy : b0 >>> 4 ≠ audioFormatExHeader) (h : (parseLegacyAudio b0).run rest = (.ok tag, u)) :
    tag.WellFormed ∧ buildAudio tag = b0 :: rest := by
  obtain ⟨hsplit, hformat, hrate⟩ := legacyAudioHead_split b0
  rw [parseLegacyAudio] at h
  by_cases haac : b0 >>> 4 = audioFormatAac
  · simp only [if_pos haac] at h
    obtain ⟨packetType, rest₁, hpacket, h⟩ := Eff.run_bind_eq_ok.mp h
    obtain ⟨body, rest₂, hbody, h⟩ := Eff.run_bind_eq_ok.mp h
    cases hbody
    cases h
    refine ⟨?_, ?_⟩
    · rw [haac]
      exact .aac hrate
    · rw [buildAudio, if_neg (by simp), if_pos haac, hsplit, Scan.byte_eq_ok.mp hpacket]
      rfl
  · simp only [if_neg haac] at h
    cases h
    refine ⟨.legacy hformat hlegacy haac hrate, ?_⟩
    rw [buildAudio, if_neg (by simp), if_neg haac, hsplit]
    rfl

/-- A payload that was read gives a well-formed tag, and is the one built from it when no modifier's
size is escaped without need. -/
theorem parseAudio_eq_ok {payload : List UInt8} {tag : AudioTag} (h : parseAudio payload = .ok tag) :
    tag.WellFormed ∧ (shortAudioSizes payload = true → buildAudio tag = payload) := by
  obtain ⟨s, hs⟩ : ∃ s, readAudio.run payload = (.ok tag, s) := ⟨_, Prod.ext h rfl⟩
  obtain ⟨b0, rest, hb0, hs⟩ := Eff.run_bind_eq_ok.mp hs
  rw [Scan.byte_eq_ok.mp hb0]
  by_cases hformat : b0 >>> 4 = audioFormatExHeader
  · rw [if_pos hformat] at hs
    exact parseExAudio_eq_ok hformat hs
  · rw [if_neg hformat] at hs
    obtain ⟨hwell, hbuilt⟩ := parseLegacyAudio_eq_ok hformat hs
    exact ⟨hwell, fun _ => hbuilt⟩

lemma buildAudio_ne_nil (tag : AudioTag) : buildAudio tag ≠ [] := by
  rw [buildAudio]
  split_ifs <;> exact List.cons_ne_nil _ _

theorem parseAudioMessage_buildAudioMessage_of_wellFormed {msg : AudioMessage} (h : msg.WellFormed) :
    parseAudioMessage (buildAudioMessage msg) = .ok msg := by
  cases msg with
  | silence => rfl
  | tag t =>
      rw [parseAudioMessage, buildAudioMessage, if_neg (by simpa using buildAudio_ne_nil t),
        parseAudio_buildAudio_of_wellFormed h]
      rfl

theorem parseAudioMessage_eq_ok {payload : List UInt8} {msg : AudioMessage}
    (h : parseAudioMessage payload = .ok msg) :
    msg.WellFormed ∧ (shortAudioSizes payload = true → buildAudioMessage msg = payload) := by
  rw [parseAudioMessage] at h
  by_cases hnil : payload.isEmpty
  · rw [if_pos hnil] at h
    cases h
    exact ⟨trivial, fun _ => (List.isEmpty_iff.mp hnil).symm⟩
  · rw [if_neg hnil] at h
    cases htag : parseAudio payload with
    | error e =>
        rw [htag] at h
        cases h
    | ok t =>
        rw [htag] at h
        cases h
        exact parseAudio_eq_ok htag

/-- The modifiers of a well-formed tag are well formed. -/
lemma AudioTag.WellFormed.modEx {tag : AudioTag} (h : tag.WellFormed) :
    ∀ e ∈ tag.modEx, e.WellFormed := by
  cases h with
  | legacy => exact fun e he => absurd he List.not_mem_nil
  | aac => exact fun e he => absurd he List.not_mem_nil
  | enhanced hheader => exact hheader.modEx
  | multitrack hheader _ => exact hheader.modEx

/-- A message is read back if and only if it is well formed. -/
theorem parseAudioMessage_buildAudioMessage_iff {msg : AudioMessage} :
    parseAudioMessage (buildAudioMessage msg) = .ok msg ↔ msg.WellFormed :=
  ⟨fun h => (parseAudioMessage_eq_ok h).1, parseAudioMessage_buildAudioMessage_of_wellFormed⟩

/-- **Round trip**: a message that was read is read back, and is built into the payload it came from
when no modifier's size is escaped without need; and the messages that are read back are the
well-formed ones. -/
theorem parseAudioMessage_buildAudioMessage :
    (∀ payload msg, parseAudioMessage payload = .ok msg →
      parseAudioMessage (buildAudioMessage msg) = .ok msg ∧
        (shortAudioSizes payload = true → buildAudioMessage msg = payload)) ∧
    ∀ msg : AudioMessage, msg.WellFormed ↔ parseAudioMessage (buildAudioMessage msg) = .ok msg := by
  refine ⟨fun payload msg h => ?_, fun msg => parseAudioMessage_buildAudioMessage_iff.symm⟩
  obtain ⟨hwell, hbuilt⟩ := parseAudioMessage_eq_ok h
  exact ⟨parseAudioMessage_buildAudioMessage_of_wellFormed hwell, hbuilt⟩

/-- An AAC frame, and an enhanced frame. -/
theorem parseAudioMessage_buildAudioMessage_aac :
    let payload : List UInt8 := [0xAF, 0x01, 0xAA]
    let aac : AudioMessage := .tag ⟨10, 3, true, true, some 1, none, none, [0xAA], [], none⟩
    let opus : AudioMessage :=
      .tag ⟨9, 0, false, false, none, some 1, some ⟨0x4F, 0x70, 0x75, 0x73⟩, [0xBB],
        [⟨0, [0, 0, 5]⟩], none⟩
    (parseAudioMessage (buildAudioMessage aac) = .ok aac ∧ buildAudioMessage aac = payload) ∧
      parseAudioMessage (buildAudioMessage opus) = .ok opus := by
  intro payload aac opus
  obtain ⟨hback, hbuilt⟩ := parseAudioMessage_buildAudioMessage.1 payload aac rfl
  have hheader : ExHeader.WellFormed ⟨[⟨0, [0, 0, 5]⟩], none, 1, some ⟨0x4F, 0x70, 0x75, 0x73⟩⟩
      audioPacketTypeModEx audioPacketTypeMultitrack := by
    refine ⟨fun e he => ?_, nofun, by decide, by decide, by decide, by decide⟩
    rw [List.mem_singleton.mp he]
    exact ⟨by decide, by decide, by decide⟩
  exact ⟨⟨hback, hbuilt rfl⟩, (parseAudioMessage_buildAudioMessage.2 opus).mp (.enhanced hheader)⟩

/-- **A wide type**: a modifier type above the nibble that carries it does not come back. -/
theorem parseAudioMessage_buildAudioMessage_wideType :
    let tag : AudioTag :=
      ⟨9, 0, false, false, none, some 0, some ⟨0x4F, 0x70, 0x75, 0x73⟩, [], [⟨16, [0]⟩], none⟩
    (tag.soundFormat = 9 ∧ tag.soundRate = 0 ∧ tag.soundSize16bit = false ∧ tag.stereo = false ∧
      tag.aacPacketType = none ∧
      (∃ packetType, tag.exPacketType = some packetType ∧ packetType.toNat < 16 ∧
        packetType ≠ audioPacketTypeModEx ∧ packetType ≠ audioPacketTypeMultitrack) ∧
      (∀ e ∈ tag.modEx, 1 ≤ e.data.length ∧ e.data.length ≤ 65536) ∧ tag.multitrack = none) ∧
      parseAudioMessage (buildAudioMessage (.tag tag)) ≠ .ok (.tag tag) := by
  intro tag
  have hpacket : ∃ packetType, tag.exPacketType = some packetType ∧ packetType.toNat < 16 ∧
      packetType ≠ audioPacketTypeModEx ∧ packetType ≠ audioPacketTypeMultitrack :=
    ⟨0, rfl, by decide, by decide, by decide⟩
  refine ⟨⟨rfl, rfl, rfl, rfl, rfl, hpacket, by decide, rfl⟩, fun h => ?_⟩
  have hwell : tag.WellFormed := parseAudioMessage_buildAudioMessage_iff.mp h
  exact absurd (hwell.modEx ⟨16, [0]⟩ List.mem_cons_self).1 (by decide)

end Rtmp.Flv
