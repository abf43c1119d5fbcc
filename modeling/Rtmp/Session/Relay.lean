import Rtmp.Amf.Respelling
import Rtmp.Session.Aggregates
import Rtmp.Session.Play

/-!
What a play session makes of the packets of a publish session.

* `PlaySession.forward`: a packet is sent on, or dropped; `PlaySession.relayed` is the message it is
  sent on as;
* `RelaysData`: a packet is relayed as the data message of a handler and a value;
* `relays_amf3_iff` (**AMF3 metadata**): what an AMF3 data message surfaces as is relayed with its
  handler and value exactly when AMF0 can spell the value;
* `relays_handler_iff` (**handlers**): a data frame is relayed under its handler, and a bare data
  message exactly when it is not taken for metadata or for a control.
-/

namespace Rtmp

namespace PlaySession

open Session

/-! ### The sends -/

/-- Send one tag on the play stream. -/
def sendMedia (typeId : UInt8) (csid ts : UInt32) (payload : List UInt8) :
    SessionM PlayState Unit := do
  let streamId ← Eff.gets fun s => s.own.streamId
  onWriter (ChunkWriter.writeMessage csid ⟨typeId, streamId, ts, payload⟩)

def sendAudio (ts : UInt32) (tag : Flv.AudioTag) : SessionM PlayState Unit :=
  sendMedia msgAudio csidAudio ts (Flv.buildAudio tag)

def sendVideo (ts : UInt32) (tag : Flv.VideoTag) : SessionM PlayState Unit :=
  sendMedia msgVideo csidVideo ts (Flv.buildVideo tag)

/-- Send a bare data message. -/
def sendData (handler : String) (value : Amf0Value) : SessionM PlayState Unit := do
  let streamId ← Eff.gets fun s => s.own.streamId
  onWriter (ChunkWriter.writeMessage csidData (buildDataMessage streamId handler value))

def sendMetadata (metadata : Amf0Value) : SessionM PlayState Unit := sendData "onMetaData" metadata

/-- Relay one packet of a publisher: the content of the stream goes on, what belongs to the
publisher's own connection does not. -/
def forward : StreamPacket → SessionM PlayState Unit
  | .audio ts tag => sendAudio ts tag
  | .video ts tag => sendVideo ts tag
  | .metadata metadata => sendMetadata metadata
  | .dataFrame handler value => sendData handler value
  | .dataFrameCleared _ => pure ()
  | .sharedObject _ => pure ()
  | .command _ | .call _ | .callReply .. => pure ()

/-- The chunk stream and the message a packet is relayed as, if it is. -/
def relayed (streamId : UInt32) : StreamPacket → Option (UInt32 × Message)
  | .audio ts tag => some (csidAudio, ⟨msgAudio, streamId, ts, Flv.buildAudio tag⟩)
  | .video ts tag => some (csidVideo, ⟨msgVideo, streamId, ts, Flv.buildVideo tag⟩)
  | .metadata metadata => some (csidData, buildDataMessage streamId "onMetaData" metadata)
  | .dataFrame handler value => some (csidData, buildDataMessage streamId handler value)
  | _ => none

/-- Relaying a packet writes its message. -/
lemma run_forward (p : StreamPacket) (s : PlaySession) :
    (forward p).run s = match relayed s.own.streamId p with
      | some (csid, msg) =>
          (onWriter (ChunkWriter.writeMessage csid msg) : SessionM PlayState Unit).run s
      | none => (.ok (), s) := by
  cases p <;> rfl

lemma sendable_csid {p : StreamPacket} {streamId csid : UInt32} {msg : Message}
    (h : relayed streamId p = some (csid, msg)) : 2 ≤ csid.toNat ∧ csid.toNat ≤ 65599 := by
  cases p <;> cases h <;> decide

/-- **Relaying**: a packet whose message is short enough arrives at the subscriber as that message. -/
theorem forward_decodesTo {p : StreamPacket} {s : PlaySession} {r : ChunkReader} {csid : UInt32}
    {msg : Message} (hsync : Synced s.writer r) (h : relayed s.own.streamId p = some (csid, msg))
    (hlen : msg.payload.length < 2 ^ 24) :
    ∃ t bs, (forward p).run s = (.ok (), t) ∧ t.writer.stream = s.writer.stream ++ bs ∧
      DecodesTo r bs msg := by
  obtain ⟨hlo, hhi⟩ := sendable_csid h
  obtain ⟨bs, w, hsend, hw, -, hread⟩ := writeMessage_synced (w := s.writer) hlo hhi hlen
  obtain ⟨r', hrun, hes, -⟩ := hread { r with stream := ReadEvent.bytes bs } []
    (hsync.of_eq rfl rfl rfl rfl) (List.append_nil _).symm
  refine ⟨{ s with writer := w }, bs, ?_, hw, r', hrun, hes⟩
  rw [run_forward, h]
  exact Eff.run_zoom hsend

end PlaySession

/-! ### Data messages -/

open PlaySession RtmpSession

/-- The packet is relayed as the data message of the handler and the value: its payload decodes to
these two, and if it fits a message it arrives. -/
def RelaysData (handler : String) (value : Amf0Value) (p : StreamPacket) : Prop :=
  ∀ (s : PlaySession) (r : ChunkReader), Synced s.writer r →
    ∃ msg, relayed s.own.streamId p = some (csidData, msg) ∧ msg.msgTypeId = msgDataAmf0 ∧
      Amf.decodeAll msg.payload = .ok [.string handler, value] ∧
      (msg.payload.length < 2 ^ 24 → ∃ t bs, (forward p).run s = (.ok (), t) ∧
        t.writer.stream = s.writer.stream ++ bs ∧ DecodesTo r bs msg)

/-- A data message is relayed when its payload decodes to what it was made of. -/
lemma relaysData_iff {p : StreamPacket} {handler handler' : String} {value value' : Amf0Value}
    (h : ∀ streamId, relayed streamId p = some (csidData, buildDataMessage streamId handler' value')) :
    RelaysData handler value p ↔
      Amf.decodeAll (Amf.encodeItems [.string handler', value']) = .ok [.string handler, value] := by
  constructor
  · intro hrelays
    obtain ⟨msg, hmsg, -, hdecode, -⟩ := hrelays (Session.opened (.new []) .new ⟨"", "", 1⟩)
      (.new []) (synced_new [])
    rw [h] at hmsg
    cases hmsg
    exact hdecode
  · intro hdecode s r hsync
    exact ⟨_, h _, rfl, hdecode, forward_decodesTo hsync (h _)⟩

/-- The handler and the value of a packet that carries stream data. -/
def surfacedData : StreamPacket → Option (String × Amf0Value)
  | .metadata value => some ("onMetaData", value)
  | .dataFrame handler value => some (handler, value)
  | _ => none

/-- A value that can be spelled can be spelled as metadata. -/
lemma spellable_metadata {value : Amf0Value} (h : value.Spellable ∧ value.height ≤ maxDecodeDepth) :
    ∀ v ∈ [.string "onMetaData", value], v.Spellable ∧ v.height ≤ maxDecodeDepth := by
  have hname : (Utf8.encode "onMetaData").length < 2 ^ 32 := by decide +kernel
  intro v hv
  rcases List.mem_pair.mp hv with rfl | rfl
  · exact ⟨hname, by decide⟩
  · exact h

/-- Metadata that can be spelled is relayed under no other handler. -/
lemma not_relaysData_metadata {handler : String} {value : Amf0Value}
    (h : value.Spellable ∧ value.height ≤ maxDecodeDepth) (hne : handler ≠ "onMetaData") :
    ¬ RelaysData handler value (.metadata value) := by
  intro hrelays
  have hdecode := (relaysData_iff fun _ => rfl).mp hrelays
  rw [Amf.decodeAll_of_spellable (spellable_metadata h)] at hdecode
  injection hdecode with hdecode
  injection hdecode with hdecode
  injection hdecode with hdecode
  exact hne hdecode.symm

/-- What AMF0 can spell is relayed as it is. -/
lemma relaysData_surfaced_iff {p : StreamPacket} {handler : String} {value : Amf0Value}
    (hp : surfacedData p = some (handler, value)) :
    RelaysData handler value p ↔
      ∀ v ∈ [.string handler, value], v.Spellable ∧ v.height ≤ maxDecodeDepth := by
  rw [← Amf.decodeAll_encodeItems_iff]
  cases p <;> cases hp <;> exact relaysData_iff fun _ => rfl

/-- A message of content surfaces as the same packet in every session. -/
lemma surfaces_everywhere {msg : Message} (hmsg : IsContent msg) {p : StreamPacket}
    {s t : RtmpSession} (h : (handleMessage msg).run s = (.ok (some p), t)) (s' : RtmpSession) :
    ∃ t', (handleMessage msg).run s' = (.ok (some p), t') := by
  obtain ⟨t₀, hrun, -⟩ := run_handleMessage_content hmsg s
  obtain ⟨t', hrun', -⟩ := run_handleMessage_content hmsg s'
  rw [hrun] at h
  have hpacket : contentPacket msg = .ok (some p) := (Prod.ext_iff.mp h).1
  rw [hrun', hpacket]
  exact ⟨t', rfl⟩

/-- **AMF3 metadata**.  What an AMF3 data message surfaces as in one publish session it surfaces as in
every one; and a play session relays it under its handler and with its value exactly when AMF0 can
spell the two and the value nests no deeper than `maxDecodeDepth`. -/
theorem relays_amf3_iff {msg : Message} (htype : msg.msgTypeId = msgDataAmf3) {p : StreamPacket}
    {s t : RtmpSession} (h : (handleMessage msg).run s = (.ok (some p), t)) {handler : String}
    {value : Amf0Value} (hp : surfacedData p = some (handler, value)) :
    (∀ s', ∃ t', (handleMessage msg).run s' = (.ok (some p), t')) ∧
      (RelaysData handler value p ↔
        ∀ v ∈ [.string handler, value], v.Spellable ∧ v.height ≤ maxDecodeDepth) :=
  ⟨surfaces_everywhere (.inr (.inr (.inr htype))) h, relaysData_surfaced_iff hp⟩

/-! ### Handlers -/

/-- The values of a data message. -/
def dataValues (msg : Message) : Except Error (List Amf0Value) :=
  if msg.msgTypeId = msgDataAmf0 then Amf.decodeAll msg.payload
  else Amf3.decodeMessageToAmf0 msg.payload

/-- A handler and a value as a publisher sends them: behind the control that stores them, or bare. -/
def published (controlled : Bool) (handler : String) (value : Amf0Value) : List Amf0Value :=
  if controlled then [.string setDataFrame, .string handler, value] else [.string handler, value]

/-- The value is an object or an ECMA array. -/
def IsRecord : Amf0Value → Bool
  | .object _ | .ecmaArray _ => true
  | _ => false

/-- A bare message that is taken for metadata of another name, or for a control. -/
def Misread (handler : String) (value : Amf0Value) : Prop :=
  handler ≠ "onMetaData" ∧ IsRecord value = true ∨
    handler = clearDataFrame ∧ ∃ name, value = .string name

lemma run_handleMessage_data {msg : Message}
    (hdata : msg.msgTypeId = msgDataAmf0 ∨ msg.msgTypeId = msgDataAmf3) {values : List Amf0Value}
    (hvalues : dataValues msg = .ok values) (s : RtmpSession) :
    ∃ t, (handleMessage msg).run s = (.ok (dataPacket values), t) := by
  obtain ⟨t, hrun, -⟩ := run_handleMessage_content
    (hdata.elim (fun h => .inr (.inr (.inl h))) fun h => .inr (.inr (.inr h))) s
  refine ⟨t, hrun.trans (congrArg (·, t) ?_)⟩
  rw [contentPacket]
  rcases hdata with h | h
  · rw [dataValues, if_pos h] at hvalues
    rw [if_neg (by rw [h]; decide), if_neg (by rw [h]; decide), if_pos h, hvalues]
    rfl
  · rw [dataValues, if_neg (by rw [h]; decide)] at hvalues
    rw [if_neg (by rw [h]; decide), if_neg (by rw [h]; decide), if_neg (by rw [h]; decide), hvalues]
    rfl

/-- What stored data surfaces as keeps the handler. -/
lemma dataPacket_controlled (handler : String) (value : Amf0Value) :
    ∃ p, dataPacket (published true handler value) = some p ∧
      surfacedData p = some (handler, value) := by
  have hparse : parseDataFrame (published true handler value) = some (.set handler value) := rfl
  rw [dataPacket, hparse]
  by_cases hmeta : handler = "onMetaData"
  · exact ⟨.metadata value, by rw [hmeta]; rfl, by rw [hmeta]; rfl⟩
  · exact ⟨.dataFrame handler value, by simp only [if_neg hmeta], rfl⟩

/-- A bare message surfaces as cleared data, as metadata, or not at all. -/
lemma dataPacket_bare (handler : String) (value : Amf0Value) :
    dataPacket (published false handler value)
      = if handler = clearDataFrame ∧ (value.asStr).isSome then
          (value.asStr).map .dataFrameCleared
        else if IsRecord value then some (.metadata value) else none := by
  by_cases hset : handler = setDataFrame
  · subst hset
    cases value <;> rfl
  · by_cases hclear : handler = clearDataFrame
    · subst hclear
      cases value <;> rfl
    · have hparse : parseDataFrame (published false handler value) = none := by
        have hname : parseDataFrame (published false handler value)
            = if handler = setDataFrame then _ else if handler = clearDataFrame then _ else none := rfl
        rw [hname, if_neg hset, if_neg hclear]
      rw [dataPacket, hparse, if_neg (fun h => hclear h.1)]
      cases value <;> rfl

/-- **Handlers**.  Let a data message carry a handler and a value that AMF0 can spell.  Whatever packet
it surfaces as is relayed as the data message of that handler and that value, exactly when the message
stores its data or is not misread. -/
theorem relays_handler_iff {msg : Message}
    (hdata : msg.msgTypeId = msgDataAmf0 ∨ msg.msgTypeId = msgDataAmf3) {controlled : Bool}
    {handler : String} {value : Amf0Value}
    (hvalues : dataValues msg = .ok (published controlled handler value))
    (hspell : ∀ v ∈ [.string handler, value], v.Spellable ∧ v.height ≤ maxDecodeDepth) :
    (∀ s t p, (handleMessage msg).run s = (.ok (some p), t) → RelaysData handler value p) ↔
      controlled = true ∨ ¬ Misread handler value := by
  have hrun := run_handleMessage_data hdata hvalues
  -- Every session surfaces the one packet of the message.
  have hpacket : (∀ s t p, (handleMessage msg).run s = (.ok (some p), t) → RelaysData handler value p)
      ↔ ∀ p, dataPacket (published controlled handler value) = some p → RelaysData handler value p := by
    constructor
    · intro h p hp
      obtain ⟨t, hrun⟩ := hrun (Session.opened (.new []) .new ⟨"", "", "", 1, []⟩)
      rw [hp] at hrun
      exact h _ _ p hrun
    · intro h s t p hp
      obtain ⟨t', hrun⟩ := hrun s
      rw [hp] at hrun
      exact h p (Except.ok.inj (Prod.ext_iff.mp hrun).1).symm
  rw [hpacket]
  cases controlled with
  | true =>
      refine iff_of_true (fun p hp => ?_) (.inl rfl)
      obtain ⟨p', hp', hsurfaced⟩ := dataPacket_controlled handler value
      rw [hp'] at hp
      cases hp
      exact (relaysData_surfaced_iff hsurfaced).mpr hspell
  | false =>
      rw [dataPacket_bare]
      simp only [Bool.false_eq_true, false_or]
      constructor
      · rintro h (⟨hne, hrecord⟩ | ⟨rfl, name, rfl⟩)
        · -- Taken for metadata, the message arrives under another name.
          have hnot : ¬ (value.asStr).isSome := by
            cases value <;> first | exact Bool.false_ne_true | cases hrecord
          rw [if_neg fun h => hnot h.2, if_pos hrecord] at h
          exact not_relaysData_metadata (hspell value (List.mem_pair.mpr (.inr rfl))) hne (h _ rfl)
        · -- Taken for a control, the message is not relayed at all.
          obtain ⟨_, hmsg, -⟩ := h (.dataFrameCleared name) rfl
            (Session.opened (.new []) .new ⟨"", "", 1⟩) (.new []) (synced_new [])
          cases hmsg
      · intro h p hp
        have hclear : ¬ (handler = clearDataFrame ∧ (value.asStr).isSome) := by
          rintro ⟨rfl, hstr⟩
          cases value with
          | string name => exact h (.inr ⟨rfl, name, rfl⟩)
          | _ => cases hstr
        rw [if_neg hclear] at hp
        split_ifs at hp with hrecord
        cases hp
        -- a record under any other name would have been misread
        have hname : handler = "onMetaData" := by
          by_contra hne
          exact h (.inl ⟨hne, hrecord⟩)
        exact (relaysData_surfaced_iff (by rw [hname]; rfl)).mpr hspell

/-! ### Single messages -/

/-- A data message carries what it was made of. -/
lemma dataValues_dataMessage {values : List Amf0Value} (streamId : UInt32)
    (h : ∀ v ∈ values, v.Spellable ∧ v.height ≤ maxDecodeDepth) :
    dataValues (dataMessage streamId values) = .ok values :=
  (if_pos rfl).trans (Amf.decodeAll_of_spellable h)

/-- The parts of a data frame with a cue point can be spelled. -/
lemma spellable_cuePoint :
    ∀ v ∈ published true "onCuePoint" (.object [("t", .null)]),
      v.Spellable ∧ v.height ≤ maxDecodeDepth := by
  have hset : (Utf8.encode setDataFrame).length < 2 ^ 32 := by decide +kernel
  have hcue : (Utf8.encode "onCuePoint").length < 2 ^ 32 := by decide +kernel
  intro v hv
  rcases List.mem_cons.mp hv with rfl | hv
  · exact ⟨hset, by decide⟩
  · rcases List.mem_pair.mp hv with rfl | rfl
    · exact ⟨hcue, by decide⟩
    · exact ⟨⟨⟨by decide, by decide⟩, trivial, trivial⟩, by decide⟩

/-- A cue point that a publisher stores is relayed as a cue point. -/
theorem relays_handler_stored :
    let value : Amf0Value := .object [("t", .null)]
    ∀ s t p, (handleMessage (dataMessage 1 (published true "onCuePoint" value))).run s
      = (.ok (some p), t) → RelaysData "onCuePoint" value p :=
  (relays_handler_iff (.inl rfl) (dataValues_dataMessage 1 spellable_cuePoint) fun v hv =>
    spellable_cuePoint v (List.mem_cons_of_mem _ hv)).mpr (.inl rfl)

/-- The same cue point sent bare surfaces as metadata, and is relayed as metadata. -/
theorem relays_handler_bare :
    let value : Amf0Value := .object [("t", .null)]
    let msg := dataMessage 1 (published false "onCuePoint" value)
    (∀ s, ∃ t, (handleMessage msg).run s = (.ok (some (.metadata value)), t)) ∧
      relayed 1 (.metadata value) = some (csidData, buildDataMessage 1 "onMetaData" value) ∧
      ¬ RelaysData "onCuePoint" value (.metadata value) := by
  intro value msg
  have hspell : ∀ v ∈ published false "onCuePoint" value,
      v.Spellable ∧ v.height ≤ maxDecodeDepth := fun v hv =>
    spellable_cuePoint v (List.mem_cons_of_mem _ hv)
  have hpacket : dataPacket (published false "onCuePoint" value) = some (.metadata value) := by
    rw [dataPacket_bare, if_neg (by decide)]
    rfl
  have hvalues : dataValues msg = .ok (published false "onCuePoint" value) :=
    dataValues_dataMessage 1 hspell
  have hrun := run_handleMessage_data (.inl rfl) hvalues
  rw [hpacket] at hrun
  exact ⟨hrun, rfl, not_relaysData_metadata (hspell value (List.mem_pair.mpr (.inr rfl)))
    (by decide)⟩

/-- An AMF3 array with one item surfaces as metadata and is relayed. -/
theorem relays_amf3_array :
    let msg : Message := ⟨msgDataAmf3, 1, 0, [0x09, 0x03, 0x01, 0x02]⟩
    let value : Amf0Value := .ecmaArray [("0", .boolean false)]
    let s : RtmpSession := Session.opened (.new []) .new ⟨"live", "cam", "live", 1, []⟩
    ((handleMessage msg).run s).1 = .ok (some (.metadata value)) ∧
      RelaysData "onMetaData" value (.metadata value) := by
  intro msg value s
  have hrun : ((handleMessage msg).run s).1 = .ok (some (.metadata value)) := rfl
  refine ⟨hrun, (relays_amf3_iff rfl (Prod.ext hrun rfl) rfl).2.mpr (spellable_metadata ?_)⟩
  exact ⟨⟨⟨by decide, by decide⟩, trivial, trivial⟩, by decide⟩

/-- An AMF3 dictionary with an empty key surfaces as metadata, and is not relayed as it is. -/
theorem relays_amf3_emptyKey :
    let msg : Message := ⟨msgDataAmf3, 1, 0, [0x11, 0x11, 0x03, 0x00, 0x06, 0x01, 0x01]⟩
    let value : Amf0Value := .ecmaArray [("", .null)]
    let s : RtmpSession := Session.opened (.new []) .new ⟨"live", "cam", "live", 1, []⟩
    ((handleMessage msg).run s).1 = .ok (some (.metadata value)) ∧
      ¬ RelaysData "onMetaData" value (.metadata value) := by
  intro msg value s
  refine ⟨rfl, fun h => ?_⟩
  have hspell := (relaysData_surfaced_iff rfl).mp h value (List.mem_pair.mpr (.inr rfl))
  exact hspell.1.1.1 rfl

end Rtmp
