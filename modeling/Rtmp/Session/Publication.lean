import Rtmp.Flv.Tracks
import Rtmp.Session.Aggregates
import Rtmp.Session.Send
import Rtmp.Session.PublishAgreement

/-!
What a client publishes and what the session it publishes to returns.

* `Media`: the messages of a publication, and the packet that each surfaces as;
* `Send`: the calls that send them, one by one, as tracks of one tag or in an aggregate;
* `Makes`: the messages that calls write, and the groupings that these stand for;
* **`publishes_of_synced`**: a session in step with the client returns what is sent, all of it and
  in order;
* `publishes_from_start`: so it does after every run of the negotiation.
-/

namespace Rtmp

open Flv ChunkWriter RtmpSession Link

/-! ### Media -/

/-- An audio, video or data message of a publication. -/
inductive Media where
  | video (ts : UInt32) (tag : VideoTag)
  | audio (ts : UInt32) (tag : AudioTag)
  | dataFrame (handler : String) (value : Amf0Value)
  | clear (handler : String)

namespace Media

/-- The message that is sent for it. -/
def message (streamId : UInt32) : Media → Message
  | video ts tag => ⟨msgVideo, streamId, ts, buildVideo tag⟩
  | audio ts tag => ⟨msgAudio, streamId, ts, buildAudio tag⟩
  | dataFrame handler value => buildSetDataFrameNamed streamId handler value
  | clear handler => buildClearDataFrame streamId handler

/-- The chunk stream that it is sent on. -/
def csid : Media → UInt32
  | video .. => csidVideo
  | audio .. => csidAudio
  | dataFrame .. | clear .. => csidData

/-- What it is for the receiver. -/
def packet : Media → StreamPacket
  | video ts tag => .video ts tag
  | audio ts tag => .audio ts tag
  | dataFrame handler value => if handler = "onMetaData" then .metadata value else .dataFrame
      handler value
  | clear handler => .dataFrameCleared handler

/-- The codecs can spell it. -/
def Codable : Media → Prop
  | video _ tag => tag.WellFormed
  | audio _ tag => tag.WellFormed
  | dataFrame handler value =>
      (Utf8.encode handler).length < 2 ^ 32 ∧ value.Spellable ∧ value.height ≤ maxDecodeDepth
  | clear handler => (Utf8.encode handler).length < 2 ^ 32

variable {m : Media}

lemma isContent_message (m : Media) (streamId : UInt32) : IsContent (m.message streamId) := by
  cases m with
  | video => exact .inr (.inl rfl)
  | audio => exact .inl rfl
  | dataFrame => exact .inr (.inr (.inl rfl))
  | clear => exact .inr (.inr (.inl rfl))

/-- **The codecs**: what can be spelled surfaces as what it is. -/
lemma contentPacket_message (h : m.Codable) (streamId : UInt32) :
    contentPacket (m.message streamId) = .ok (some m.packet) := by
  have hscalar : 1 ≤ maxDecodeDepth := by decide
  cases m with
  | video ts tag =>
      show (fun tag => some (StreamPacket.video ts tag)) <$> parseVideo (buildVideo tag) = _
      rw [parseVideo_buildVideo_of_wellFormed h]
      rfl
  | audio ts tag =>
      show (fun tag => some (StreamPacket.audio ts tag)) <$> parseAudio (buildAudio tag) = _
      rw [parseAudio_buildAudio_of_wellFormed h]
      rfl
  | dataFrame handler value =>
      obtain ⟨hhandler, hvalue, hheight⟩ := h
      show dataPacket <$> Amf.decodeAll
        (Amf.encodeItems [.string setDataFrame, .string handler, value]) = _
      rw [Amf.decodeAll_of_spellable]
      · rfl
      · intro v hv
        simp only [List.mem_cons, List.not_mem_nil, or_false] at hv
        rcases hv with rfl | rfl | rfl
        · exact ⟨(by decide : (Utf8.encode setDataFrame).length < 2 ^ 32), hscalar⟩
        · exact ⟨hhandler, hscalar⟩
        · exact ⟨hvalue, hheight⟩
  | clear handler =>
      show dataPacket <$> Amf.decodeAll (Amf.encodeItems [.string clearDataFrame, .string handler]) = _
      rw [Amf.decodeAll_of_spellable]
      · rfl
      · intro v hv
        rcases List.mem_pair.mp hv with rfl | rfl
        · exact ⟨(by decide : (Utf8.encode clearDataFrame).length < 2 ^ 32), hscalar⟩
        · exact ⟨h, hscalar⟩

lemma results_message (h : m.Codable) (streamId : UInt32) :
    results (m.message streamId) = [.ok (some m.packet)] := by
  rw [results, contentPacket_message h]

/-- The message stream is the only thing that an aggregate changes. -/
lemma onStream_message (m : Media) (streamId streamId' : UInt32) :
    RtmpClient.onStream streamId (m.message streamId') = m.message streamId := by
  cases m <;> rfl

lemma length_payload_message (m : Media) (streamId streamId' : UInt32) :
    (m.message streamId).payload.length = (m.message streamId').payload.length := by
  cases m <;> rfl

lemma sendable_csid (m : Media) : 2 ≤ m.csid.toNat ∧ m.csid.toNat ≤ 65599 := by
  cases m with
  | video => exact (by decide : 2 ≤ csidVideo.toNat ∧ csidVideo.toNat ≤ 65599)
  | audio => exact (by decide : 2 ≤ csidAudio.toNat ∧ csidAudio.toNat ≤ 65599)
  | dataFrame => exact (by decide : 2 ≤ csidData.toNat ∧ csidData.toNat ≤ 65599)
  | clear => exact (by decide : 2 ≤ csidData.toNat ∧ csidData.toNat ≤ 65599)

end Media

/-! ### The calls -/

namespace RtmpClient

/-- Send the tags of single tracks in one tag. -/
def sendVideoMultitrack (ts : UInt32) (multitrackType : UInt8) (tracks : List (UInt8 × VideoTag)) :
    SessionM ClientState Unit := do
  let tag ← Eff.ofExcept (VideoTag.multitrackFromTags multitrackType tracks)
  sendVideoTag ts tag

def sendAudioMultitrack (ts : UInt32) (multitrackType : UInt8) (tracks : List (UInt8 × AudioTag)) :
    SessionM ClientState Unit := do
  let tag ← Eff.ofExcept (AudioTag.multitrackFromTags multitrackType tracks)
  sendAudioTag ts tag

end RtmpClient

/-- A call of a publisher.  The messages of an aggregate are built on whatever message streams. -/
inductive Send where
  | media (m : Media)
  | metadata (value : Amf0Value)
  | videoTracks (ts : UInt32) (multitrackType : UInt8) (tracks : List (UInt8 × VideoTag))
  | audioTracks (ts : UInt32) (multitrackType : UInt8) (tracks : List (UInt8 × AudioTag))
  | aggregate (subs : List (UInt32 × Media))

namespace Send

/-- The call itself. -/
def call : Send → SessionM ClientState Unit
  | media (.video ts tag) => RtmpClient.sendVideoTag ts tag
  | media (.audio ts tag) => RtmpClient.sendAudioTag ts tag
  | media (.dataFrame handler value) => RtmpClient.sendDataFrame handler value
  | media (.clear handler) => RtmpClient.clearDataFrame handler
  | metadata value => RtmpClient.sendMetadata value
  | videoTracks ts multitrackType tracks => RtmpClient.sendVideoMultitrack ts multitrackType tracks
  | audioTracks ts multitrackType tracks => RtmpClient.sendAudioMultitrack ts multitrackType tracks
  | aggregate subs => RtmpClient.sendAggregate (subs.map fun p => p.2.message p.1)

/-- What it is a call for. -/
def contents : Send → List Media
  | media m => [m]
  | metadata value => [.dataFrame "onMetaData" value]
  | videoTracks ts multitrackType tracks =>
      (VideoTag.multitrackFromTags multitrackType tracks).toOption.toList.map (.video ts)
  | audioTracks ts multitrackType tracks =>
      (AudioTag.multitrackFromTags multitrackType tracks).toOption.toList.map (.audio ts)
  | aggregate subs => subs.map Prod.snd

/-- The codecs can spell it, and it has a length that a chunk header can hold. -/
def Fits (m : Media) : Prop := m.Codable ∧ (m.message 0).payload.length < 2 ^ 24

/-- The call can be made: there is a tag for the tracks, and what is sent fits its message. -/
def Legal : Send → Prop
  | media m => Fits m
  | metadata value => Fits (.dataFrame "onMetaData" value)
  | videoTracks ts multitrackType tracks =>
      ∃ tag, VideoTag.multitrackFromTags multitrackType tracks = .ok tag ∧ Fits (.video ts tag)
  | audioTracks ts multitrackType tracks =>
      ∃ tag, AudioTag.multitrackFromTags multitrackType tracks = .ok tag ∧ Fits (.audio ts tag)
  | aggregate subs =>
      (∀ p ∈ subs, p.2.Codable) ∧ bodyLength (subs.map fun p => p.2.message p.1) < 2 ^ 24

/-- The calls of a list, one after the other. -/
def callAll : List Send → SessionM ClientState Unit
  | [] => pure ()
  | x :: xs => do
      x.call
      callAll xs

end Send

/-! ### What calls make -/

lemma sendAll_append (ops ops' : List ChunkOp) :
    sendAll (ops ++ ops') = sendAll ops >>= fun _ => sendAll ops' := by
  induction ops with
  | nil => rfl
  | cons op ops ih =>
      cases op <;>
        rw [List.cons_append, sendAll, sendAll, ih, Eff.bind_assoc]

/-- The calls write these messages, which stand for these groupings of what they are calls for. -/
structure Makes (c : SessionM ClientState Unit) (ms : List Media) (streamId : UInt32)
    (gs : List Grouping)
    (pairs : List (UInt32 × Message)) : Prop where
  sendable : ∀ p ∈ pairs, Sendable p
  represents : List.Forall₂ Represents gs (pairs.map Prod.snd)
  served : Nest.servedInTurn gs = ms.map (Media.message streamId)
  run : ∀ s : RtmpClient, s.own.streamId = streamId →
    c.run s = (Session.onWriter (sendAll (sends pairs)) : SessionM ClientState Unit).run s

namespace Makes

variable {c c' : SessionM ClientState Unit} {ms ms' : List Media} {streamId : UInt32}
  {gs gs' : List Grouping} {pairs pairs' : List (UInt32 × Message)}

lemma nil : Makes (pure ()) [] streamId [] [] :=
  ⟨fun _ hp => absurd hp List.not_mem_nil, .nil, rfl, fun _ _ => rfl⟩

lemma run_onWriter {α : Type} {x : WriterM α} {s : RtmpClient} {w : ChunkWriter} {a : α}
    (h : x.run s.writer = (.ok a, w)) :
    (Session.onWriter x : SessionM ClientState α).run s = (.ok a, { s with writer := w }) :=
    Eff.run_zoom h

lemma append (h : Makes c ms streamId gs pairs) (h' : Makes c' ms' streamId gs' pairs') :
    Makes (c >>= fun _ => c') (ms ++ ms') streamId (gs ++ gs') (pairs ++ pairs') where
  sendable p hp := (List.mem_append.mp hp).elim (h.sendable p) (h'.sendable p)
  represents := by
    rw [List.map_append]
    exact List.rel_append h.represents h'.represents
  served := by
    rw [Nest.servedInTurn, List.flatMap_append, List.map_append]
    exact congrArg₂ _ h.served h'.served
  run s hs := by
    -- the second list is written by the writer that the first one leaves
    obtain ⟨bs, w, hsend, -⟩ := delivers_sent h.sendable s.writer
    obtain ⟨bs', w', hsend', -⟩ := delivers_sent h'.sendable w
    have hfirst : c.run s = (.ok (), { s with writer := w }) := (h.run s hs).trans (run_onWriter hsend)
    have hsecond : c'.run { s with writer := w } = (.ok (), { s with writer := w' }) :=
      (h'.run { s with writer := w } hs).trans (run_onWriter (s := { s with writer := w }) hsend')
    have hboth : (sendAll (sends (pairs ++ pairs'))).run s.writer = (.ok (), w') := by
      rw [sends, List.map_append, sendAll_append]
      exact (Eff.run_bind_ok hsend).trans hsend'
    rw [Eff.run_bind_ok hfirst, hsecond, run_onWriter hboth]

/-- One message. -/
lemma one {csid : UInt32} {m : Media} (h : Send.Fits m) (hcsid : 2 ≤ csid.toNat ∧ csid.toNat ≤ 65599)
    (hrun : ∀ s : RtmpClient, s.own.streamId = streamId → c.run s
      = (Session.onWriter (writeMessage csid (m.message streamId)) : SessionM ClientState Unit).run s) :
    Makes c [m] streamId [.item (m.message streamId)] [(csid, m.message streamId)] where
  sendable p hp := by
    rw [List.mem_singleton.mp hp]
    exact ⟨hcsid, (m.length_payload_message streamId 0).trans_lt h.2⟩
  represents := represents_item [m.message streamId]
  served := Nest.servedInTurn_item [m.message streamId]
  run s hs := by
    have hlen := (m.length_payload_message streamId 0).trans_lt h.2
    obtain ⟨bs, w, hwrite, -⟩ := writeMessage_synced (w := s.writer) hcsid.1 hcsid.2 hlen
    -- to send a list of one message is to write it
    have hone : (sendAll (sends [(csid, m.message streamId)])).run s.writer = (.ok (), w) :=
      Eff.run_bind_ok hwrite
    rw [hrun s hs, run_onWriter hwrite, run_onWriter hone]

lemma levelOrder_items (msgs : List Message) :
    Nest.levelOrder (msgs.map Nest.item : List Grouping) = msgs := by
  induction msgs with
  | nil => exact Nest.levelOrder_nil
  | cons m msgs ih => rw [List.map_cons, Nest.levelOrder_item, ih]

lemma packedAll_items (msgs : List Message) : packedAll (msgs.map Nest.item) = .ok msgs := by
  induction msgs with
  | nil => rfl
  | cons m msgs ih =>
      rw [List.map_cons, packedAll, ih]
      rfl

/-- A message is shorter than an aggregate that holds it. -/
lemma length_lt_bodyLength {sub : Message} {subs : List Message} (h : sub ∈ subs) :
    sub.payload.length < bodyLength subs := by
  have hle : sub.payload.length + 15 ≤ bodyLength subs := List.le_sum_of_mem (List.mem_map_of_mem h)
  omega

/-- An aggregate of messages. -/
lemma group {subs : List (UInt32 × Media)} (hne : subs ≠ [])
    (hbody : bodyLength (subs.map fun p => p.2.message p.1) < 2 ^ 24) :
    ∃ gs pairs, Makes (RtmpClient.sendAggregate (subs.map fun p => p.2.message p.1)) (subs.map Prod.snd)
      streamId gs pairs := by
  let msgs := (subs.map Prod.snd).map (Media.message streamId)
  have hmoved : (subs.map fun p => p.2.message p.1).map (RtmpClient.onStream streamId) = msgs := by
    simp only [msgs, List.map_map]
    exact List.map_congr_left fun p _ => p.2.onStream_message streamId p.1
  have hlen : bodyLength msgs < 2 ^ 24 := by
    rw [← hmoved, RtmpClient.bodyLength_onStream]
    exact hbody
  obtain ⟨agg, hbuild⟩ : ∃ agg, buildAggregate streamId msgs = .ok agg :=
    (buildAggregate_eq_ok_iff fun sub hsub => (length_lt_bodyLength hsub).trans hlen).mpr
      (hlen.trans (by norm_num))
  -- the aggregate is one message, on the chunk stream of data
  have hsend : Sendable (csidData, agg) :=
    ⟨(by decide : 2 ≤ csidData.toNat ∧ csidData.toNat ≤ 65599),
      (length_payload_buildAggregate hbuild).trans_lt hlen⟩
  refine ⟨[.group streamId (msgs.map .item)], [(csidData, agg)], fun p hp => ?_, ?_, ?_, fun s hs => ?_⟩
  · rw [List.mem_singleton.mp hp]
    exact hsend
  · refine .cons ⟨agg, ?_, .refl agg⟩ .nil
    rw [packed, packedAll_items]
    exact hbuild
  · rw [Nest.servedInTurn_cons, Nest.levelOrder_group, List.nil_append, levelOrder_items]
    exact List.append_nil _
  · subst hs
    obtain ⟨bs, w, hwrite, -⟩ := writeMessage_synced (w := s.writer) hsend.1.1 hsend.1.2 hsend.2
    have hone : (sendAll (sends [(csidData, agg)])).run s.writer = (.ok (), w) := Eff.run_bind_ok hwrite
    rw [RtmpClient.run_sendAggregate (by simpa using hne) (hmoved ▸ hbuild), hwrite, run_onWriter hone]

end Makes

lemma Send.contents_videoTracks {ts : UInt32} {ty : UInt8} {tracks : List (UInt8 × VideoTag)}
    {tag : VideoTag}
    (h : VideoTag.multitrackFromTags ty tracks = .ok tag) :
    (videoTracks ts ty tracks).contents = [.video ts tag] := by
  rw [contents, h]
  rfl

lemma Send.contents_audioTracks {ts : UInt32} {ty : UInt8} {tracks : List (UInt8 × AudioTag)}
    {tag : AudioTag}
    (h : AudioTag.multitrackFromTags ty tracks = .ok tag) :
    (audioTracks ts ty tracks).contents = [.audio ts tag] := by
  rw [contents, h]
  rfl

/-- **Every call**: a call that can be made makes messages that stand for what it is a call for. -/
lemma Send.Legal.makes {x : Send} (h : x.Legal) (streamId : UInt32) :
    ∃ gs pairs, Makes x.call x.contents streamId gs pairs := by
  cases x with
  | media m =>
      refine ⟨_, _, .one h m.sendable_csid fun s hs => ?_⟩
      subst hs
      cases m <;> rfl
  | metadata value =>
      refine ⟨_, _, .one h (Media.sendable_csid (.dataFrame "onMetaData" value)) fun s hs => ?_⟩
      subst hs
      rfl
  | videoTracks ts ty tracks =>
      obtain ⟨tag, hmux, hfits⟩ := h
      rw [contents_videoTracks hmux]
      refine ⟨_, _, .one hfits (Media.sendable_csid (.video ts tag)) fun s hs => ?_⟩
      subst hs
      rw [call, RtmpClient.sendVideoMultitrack, hmux, Eff.ofExcept_ok_bind]
      rfl
  | audioTracks ts ty tracks =>
      obtain ⟨tag, hmux, hfits⟩ := h
      rw [contents_audioTracks hmux]
      refine ⟨_, _, .one hfits (Media.sendable_csid (.audio ts tag)) fun s hs => ?_⟩
      subst hs
      rw [call, RtmpClient.sendAudioMultitrack, hmux, Eff.ofExcept_ok_bind]
      rfl
  | aggregate subs =>
      rcases eq_or_ne subs [] with rfl | hne
      · exact ⟨[], [], .nil⟩
      · exact Makes.group hne h.2

/-- Calls one after the other. -/
lemma Send.makes_callAll {xs : List Send} (h : ∀ x ∈ xs, x.Legal) (streamId : UInt32) :
    ∃ gs pairs, Makes (callAll xs) (xs.flatMap contents) streamId gs pairs := by
  induction xs with
  | nil => exact ⟨[], [], .nil⟩
  | cons x xs ih =>
      obtain ⟨gs, pairs, hx⟩ := (h x List.mem_cons_self).makes streamId
      obtain ⟨gs', pairs', hxs⟩ := ih fun y hy => h y (List.mem_cons_of_mem _ hy)
      rw [List.flatMap_cons]
      exact ⟨gs ++ gs', pairs ++ pairs', hx.append hxs⟩

/-- What a legal call is for could be sent on its own. -/
lemma Send.Legal.fits {x : Send} (h : x.Legal) : ∀ m ∈ x.contents, Fits m := by
  cases x with
  | media m =>
      intro m' hm
      rw [List.mem_singleton.mp hm]
      exact h
  | metadata value =>
      intro m' hm
      rw [List.mem_singleton.mp hm]
      exact h
  | videoTracks ts ty tracks =>
      obtain ⟨tag, hmux, hfits⟩ := h
      intro m' hm
      rw [contents_videoTracks hmux] at hm
      rw [List.mem_singleton.mp hm]
      exact hfits
  | audioTracks ts ty tracks =>
      obtain ⟨tag, hmux, hfits⟩ := h
      intro m' hm
      rw [contents_audioTracks hmux] at hm
      rw [List.mem_singleton.mp hm]
      exact hfits
  | aggregate subs =>
      intro m' hm
      obtain ⟨p, hp, rfl⟩ := List.mem_map.mp hm
      have hlen := Makes.length_lt_bodyLength (List.mem_map_of_mem (f := fun p => p.2.message p.1) hp)
      exact ⟨h.1 p hp, (p.2.length_payload_message 0 p.1).trans_lt (hlen.trans h.2)⟩

lemma flatMap_results_message {ms : List Media} (h : ∀ m ∈ ms, m.Codable) (streamId : UInt32) :
    (ms.map (Media.message streamId)).flatMap results = ms.map fun m : Media =>
    Except.ok (some m.packet) := by
  rw [List.flatMap_map, List.map_eq_flatMap]
  exact List.flatMap_congr fun m hm => Media.results_message (h m hm) streamId

/-! ### The publication -/

/-- What the client sends is what the session returns: all of it, once each and in order, and then
that there is nothing more. -/
def Publishes (xs : List Send) (s : RtmpClient) (t : RtmpSession) : Prop :=
  ∃ s' bs, (Send.callAll xs).run s = (.ok (), s') ∧ s'.writer.stream = s.writer.stream ++ bs ∧
    ∀ n, (dispatcher.calls n { t with reader := t.reader.feed (ReadEvent.bytes bs) }).1
      = ((xs.flatMap Send.contents).map (fun m : Media => Except.ok (some m.packet))
          ++ List.replicate n (Except.ok none)).take n

/-- **A publication**: whatever is sent, by whatever calls, one by one, as tracks of one tag or in
aggregates, a session in step with the client returns it. -/
theorem publishes_of_synced {xs : List Send} (h : ∀ x ∈ xs, x.Legal) {s : RtmpClient} {t : RtmpSession}
    (hsync : Synced s.writer t.reader) (hstream : t.reader.stream = []) (hidle : t.pendingSubs = [])
    (hopen : t.ended = false) : Publishes xs s t := by
  obtain ⟨gs, pairs, hmakes⟩ := Send.makes_callAll h s.own.streamId
  obtain ⟨bs, w, hsend, hw, hdeliver⟩ := delivers_sent hmakes.sendable s.writer
  have hcodable : ∀ m ∈ xs.flatMap Send.contents, m.Codable := fun m hm => by
    obtain ⟨x, hx, hm⟩ := List.mem_flatMap.mp hm
    exact ((h x hx).fits m hm).1
  have hcontent : ∀ msg ∈ Nest.items gs, IsContent msg := fun msg hmsg => by
    have hserved := (Nest.servedInTurn_perm gs).mem_iff.mpr hmsg
    rw [hmakes.served] at hserved
    obtain ⟨m, -, rfl⟩ := List.mem_map.mp hserved
    exact m.isContent_message _
  have hwire : (t.reader.feed (ReadEvent.bytes bs)).Delivers (pairs.map Prod.snd) := by
    refine hdeliver _ (hsync.of_eq rfl rfl rfl rfl) ?_
    rw [ChunkReader.stream_feed, hstream, List.nil_append]
  refine ⟨{ s with writer := w }, bs, (hmakes.run s rfl).trans (Makes.run_onWriter hsend), hw,
    fun n => ?_⟩
  have hcalls := calls_wire (s := { t with reader := t.reader.feed (ReadEvent.bytes bs) }) hcontent
    hopen hidle
    hmakes.represents hwire n
  rw [hcalls, hmakes.served, flatMap_results_message hcodable]

/-- A publication that goes on: the title, then two frames in one tag, then a frame of sound and the
end of the title in one message. -/
theorem publishes_titled :
    let a : VideoTag := ⟨1, 0, none, -2, [0xAA], some 1, some fourccHevc, [], none⟩
    let b : VideoTag := ⟨1, 0, none, 40, [0xBB, 0xCC], some 1, some fourccAvc, [], none⟩
    let c : AudioTag := ⟨9, 0, false, false, none, some 1, some ⟨0x6D, 0x70, 0x34, 0x61⟩, [1], [], none⟩
    Publishes [.metadata (.string "cam"), .videoTracks 40 2 [(0, a), (1, b)],
        .aggregate [(7, .audio 50 c), (1, .clear "onMetaData")]]
      (.opened (.new []) .new ⟨1, .ofNat 10, "rtmp://host/live"⟩)
      (.opened (.new []) .new ⟨"live", "cam", "live", 1, []⟩) := by
  intro a b c
  refine publishes_of_synced (fun x hx => ?_) (synced_new []) rfl rfl rfl
  have hc : c.WellFormed := (parseAudio_eq_ok (by decide +kernel : parseAudio (buildAudio c) = .ok c)).1
  simp only [List.mem_cons, List.not_mem_nil, or_false] at hx
  rcases hx with rfl | rfl | rfl
  · exact ⟨⟨by decide +kernel, (by decide +kernel : (Utf8.encode "cam").length < 2 ^ 32),
      (by decide : 1 ≤ maxDecodeDepth)⟩, by decide +kernel⟩
  · exact ⟨_, rfl, parseVideo_buildVideo_iff.mp (by decide +kernel), by decide +kernel⟩
  · refine ⟨fun p hp => ?_, by decide +kernel⟩
    rcases List.mem_pair.mp hp with rfl | rfl
    · exact hc
    · exact (by decide +kernel : (Utf8.encode "onMetaData").length < 2 ^ 32)

/-- A writer and a reader between which nothing is on the way are in step. -/
lemma Link.Transit.synced {w : ChunkWriter} {bs : List UInt8} {r : ChunkReader}
    (h : Transit w bs [] r) :
    Synced w r := by
  cases h with
  | nil _ hsync => exact hsync

/-- **A publication from its start**: a client that publishes and a server that takes it settle in
every run, and where they settle the session of the server returns whatever the client then sends.
-/
theorem publishes_from_start {u : RtmpUrl} {publishType : String}
    {caps serverCaps : ConnectCapabilities} (h : Publishable u publishType caps serverCaps) :
    let client : ClientState := ⟨1, .ofNat 10, u.tcUrl⟩
    let session : PublishState := ⟨u.app, u.streamName, publishType, 1, []⟩
    let out : Link → Except Error (RtmpClient × ConnectCapabilities) := fun a =>
      .ok (a.session client, serverCaps.advertised)
    let out' : Link → Except Error (Option RtmpSession) := fun b => .ok (some (b.session session))
    let started := [buildOnStatus 1 "status" statusPublishStart ("Started publishing " ++ u.streamName)]
    Concludes (RtmpClient.connectParsed u publishType caps)
        (RtmpServer.serve serverCaps PublishRequest.accept) out out' [] started ∧
      ∀ a b n, Settled out out' [] started a b n →
        ∀ xs : List Send, (∀ x ∈ xs, x.Legal) →
        Publishes xs (a.session client) (b.session session) := by
  intro client session out out' started
  have haccept : RtmpServer.serving PublishRequest.accept
      (.publish ⟨u.app, u.streamName, publishType, u.tcUrl, caps, 1⟩) = (do
        write csidProtocolControl (buildUserControlStreamBegin 1)
        write csidCommand (buildOnStatus 1 "status" statusPublishStart
          ("Started publishing " ++ u.streamName))
        let s ← Eff.gets (Link.session session)
        pure (some s)) := by
    simp only [session, RtmpServer.serving, PublishRequest.accept, Eff.bind_assoc]
  constructor
  · refine concludes_of_dialogue (publication_taken h haccept) ⟨fun l => ?_, fun _ h => by cases h⟩
      ⟨fun _ => rfl, fun _ h => by cases h⟩ (fun _ hmsg => absurd hmsg List.not_mem_nil)
      fun msg hmsg => ?_
    · rw [extractServerCaps_connectReply]
      rfl
    · rw [List.mem_singleton.mp hmsg]
      exact (by decide : msgCommandAmf0 ≠ msgSetChunkSize)
  · intro a b n hsettled xs hxs
    exact publishes_of_synced hxs hsettled.toRight.synced hsettled.toRight.stream rfl rfl

/-- A camera, and a server that knows one format. -/
theorem publishes_from_start_cam :
    let client : ClientState := ⟨1, .ofNat 10, "rtmp://host/live"⟩
    let session : PublishState := ⟨"live", "cam", "live", 1, []⟩
    let caps : ConnectCapabilities := { ConnectCapabilities.default with fourccList := ["hvc1"] }
    let out : Link → Except Error (RtmpClient × ConnectCapabilities) := fun a =>
      .ok (a.session client, caps.advertised)
    let out' : Link → Except Error (Option RtmpSession) := fun b => .ok (some (b.session session))
    let started := [buildOnStatus 1 "status" statusPublishStart ("Started publishing " ++ "cam")]
    Concludes (RtmpClient.connectParsed ⟨"live", "cam", "rtmp://host/live"⟩ "live" .default)
        (RtmpServer.serve caps PublishRequest.accept) out out' [] started ∧
      ∀ a b n, Settled out out' [] started a b n →
        ∀ xs : List Send, (∀ x ∈ xs, x.Legal) → Publishes xs (a.session client) (b.session session) :=
  publishes_from_start (u := ⟨"live", "cam", "rtmp://host/live"⟩)
    ⟨⟨⟨by decide, by decide, by decide, by decide⟩, ⟨by decide, by decide, by decide, by decide⟩,
      by decide +kernel, by decide +kernel⟩, by decide +kernel, by decide +kernel, by decide +kernel,
      by decide +kernel⟩

end Rtmp
