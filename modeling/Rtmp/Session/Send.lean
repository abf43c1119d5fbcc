import Rtmp.Session.Client
import Rtmp.Session.Delivery

/-!
What a publishing client sends, and whether its sends are all or nothing.

* `RtmpClient.sendVideoTag`, `sendAudioTag`, `sendDataFrame`, `clearDataFrame`, `sendAggregate`: the
  sends, each one message on a chunk stream of its own kind;
* `RtmpClient.FaithfulAggregate`: a call of `send_aggregate` that succeeded emitted its messages, and
  one that failed emitted nothing and left no trace;
* `RtmpClient.faithful_iff` (**lengths**): `write_message` and `send_aggregate` are faithful exactly
  when what they send as one message is below `2^24`, or is refused.
-/

namespace Rtmp

open Flv ChunkWriter

namespace RtmpClient

/-! ### The sends -/

/-- Send one message. -/
def send (csid : UInt32) (msg : Message) : SessionM ClientState Unit :=
  Session.onWriter (writeMessage csid msg)

/-- The message stream the client publishes on. -/
def publishStreamId : SessionM ClientState UInt32 := Eff.gets fun s => s.own.streamId

/-- Send one video tag. -/
def sendVideoTag (ts : UInt32) (tag : VideoTag) : SessionM ClientState Unit := do
  let streamId ← publishStreamId
  send csidVideo ⟨msgVideo, streamId, ts, buildVideo tag⟩

/-- Send one audio tag. -/
def sendAudioTag (ts : UInt32) (tag : AudioTag) : SessionM ClientState Unit := do
  let streamId ← publishStreamId
  send csidAudio ⟨msgAudio, streamId, ts, buildAudio tag⟩

/-- Ask the server to store a data frame. -/
def sendDataFrame (handler : String) (value : Amf0Value) : SessionM ClientState Unit := do
  let streamId ← publishStreamId
  send csidData (buildSetDataFrameNamed streamId handler value)

/-- Ask the server to store the metadata of the stream. -/
def sendMetadata (metadata : Amf0Value) : SessionM ClientState Unit := do
  let streamId ← publishStreamId
  send csidData (buildSetDataFrame streamId metadata)

/-- Ask the server to forget a data frame. -/
def clearDataFrame (handler : String) : SessionM ClientState Unit := do
  let streamId ← publishStreamId
  send csidData (buildClearDataFrame streamId handler)

/-- The message on another message stream. -/
def onStream (streamId : UInt32) (msg : Message) : Message := { msg with msgStreamId := streamId }

/-- Send messages as one aggregate; without any there is nothing to send. -/
def sendAggregate (subs : List Message) : SessionM ClientState Unit :=
  if subs.isEmpty then pure ()
  else do
    let streamId ← publishStreamId
    let agg ← Eff.ofExcept (buildAggregate streamId (subs.map (onStream streamId)))
    send csidData agg

/-! ### All or nothing -/

/-- What a call of `send_aggregate` that ran from `s` with the given outcome promises about its
messages: sent on the client's message stream if it succeeded, undone if it failed. -/
def FaithfulAggregate (s : RtmpClient) (r : ChunkReader) (subs : List Message) :
    Except Error Unit × RtmpClient → Prop
  | (.ok _, s') => ∃ bs, s'.writer.stream = s.writer.stream ++ bs ∧
      (subs = [] ∧ bs = [] ∨ ∃ agg, DecodesTo r bs agg ∧
        parseAggregate agg = .ok (subs.map (onStream s.own.streamId)))
  | (.error _, s') => Undone s.writer s'.writer

lemma bodyLength_onStream (streamId : UInt32) (subs : List Message) :
    bodyLength (subs.map (onStream streamId)) = bodyLength subs := by
  simp only [bodyLength, List.map_map]
  rfl

/-- What is sent is the aggregate, if it can be built. -/
lemma run_sendAggregate {s : RtmpClient} {subs : List Message} (hsubs : subs ≠ []) {agg : Message}
    (hbuild : buildAggregate s.own.streamId (subs.map (onStream s.own.streamId)) = .ok agg) :
    (sendAggregate subs).run s = (((writeMessage csidData agg).run s.writer).1,
      { s with writer := ((writeMessage csidData agg).run s.writer).2 }) := by
  have hid : publishStreamId.run s = (.ok s.own.streamId, s) := rfl
  rw [sendAggregate, if_neg (by rwa [List.isEmpty_iff]), Eff.run_bind_ok hid, hbuild]
  rfl

/-- Nothing is sent if the aggregate cannot be built. -/
lemma run_sendAggregate_error {s : RtmpClient} {subs : List Message} (hsubs : subs ≠ [])
    {e : Error}
    (hbuild : buildAggregate s.own.streamId (subs.map (onStream s.own.streamId)) = .error e) :
    (sendAggregate subs).run s = (.error e, s) := by
  have hid : publishStreamId.run s = (.ok s.own.streamId, s) := rfl
  rw [sendAggregate, if_neg (by rwa [List.isEmpty_iff]), Eff.run_bind_ok hid, hbuild]
  rfl

lemma undone_refl (w : ChunkWriter) : Undone w w := ⟨rfl, fun _ => ⟨rfl, rfl⟩⟩

/-- An aggregate is all or nothing exactly when its body is below `2^24`, or is refused. -/
lemma faithful_sendAggregate_iff {s : RtmpClient} {r : ChunkReader} (hsync : Synced s.writer r)
    {subs : List Message} (hsubs : ∀ sub ∈ subs, sub.payload.length < 2 ^ 24) :
    FaithfulAggregate s r subs ((sendAggregate subs).run s) ↔
      bodyLength subs < 2 ^ 24 ∨ 2 ^ 32 ≤ bodyLength subs := by
  by_cases hnil : subs = []
  · subst hnil
    refine iff_of_true ⟨[], (List.append_nil _).symm, .inl ⟨rfl, rfl⟩⟩ (.inl ?_)
    rw [bodyLength_nil]
    norm_num
  · have hmoved : ∀ sub ∈ subs.map (onStream s.own.streamId), sub.payload.length < 2 ^ 24 := by
      intro sub hsub
      obtain ⟨sub', hsub', rfl⟩ := List.mem_map.mp hsub
      exact hsubs sub' hsub'
    have hbuildable : (∃ agg, buildAggregate s.own.streamId
        (subs.map (onStream s.own.streamId)) = .ok agg) ↔ bodyLength subs < 2 ^ 32 := by
      rw [buildAggregate_eq_ok_iff hmoved, bodyLength_onStream]
    cases hbuild : buildAggregate s.own.streamId (subs.map (onStream s.own.streamId)) with
    | error e =>
        rw [run_sendAggregate_error hnil hbuild]
        -- the builder refuses a body only where four bytes do not hold its length
        refine iff_of_true (undone_refl _) (.inr ?_)
        by_contra hsmall
        obtain ⟨agg, hagg⟩ := hbuildable.mpr (by omega)
        rw [hagg] at hbuild
        cases hbuild
    | ok agg =>
        have hsmall := hbuildable.mp ⟨agg, hbuild⟩
        have hlen := length_payload_buildAggregate hbuild
        rw [bodyLength_onStream] at hlen
        have hparse := parseAggregate_buildAggregate hbuild
        have hstream : agg.msgStreamId = s.own.streamId := by
          rw [buildAggregate] at hbuild
          cases hpack : packSubs [] (subs.map (onStream s.own.streamId)) with
          | error e =>
              rw [hpack] at hbuild
              cases hbuild
          | ok body =>
              rw [hpack] at hbuild
              cases hbuild
              rfl
        rw [hstream, List.map_map] at hparse
        have hiff := faithful_writeMessage_iff hsync csidData agg
        rw [run_sendAggregate hnil hbuild]
        rcases hrun : (writeMessage csidData agg).run s.writer with ⟨e | u, w'⟩
        · -- The chunk stream of data can be named, so the call does not fail.
          obtain ⟨fmt, hpick, hlegal⟩ := pickFmt_legal (s.writer.outState csidData) agg
          rw [writeMessage_ok (by decide) (by decide) hpick hlegal] at hrun
          cases hrun
        · constructor
          · rintro ⟨bs, -, hnone | ⟨agg', ⟨r', hread, -⟩, hparse'⟩⟩
            · exact absurd hnone.1 hnil
            · -- Whatever is read is too short to hold the messages.
              have hwf : ({ r with stream := ReadEvent.bytes bs } : ChunkReader).WellFormed :=
                hsync.wellFormed
              have hshort := ChunkReader.length_payload_lt hwf hread
              have hfits := bodyLength_parseAggregate hparse'
              rw [bodyLength_onStream] at hfits
              exact .inl (hfits.trans_lt hshort)
          · intro hcond
            -- the body fits the header of a message, so it is read as it was written
            have hbody : agg.payload.length < 2 ^ 24 := by
              rw [hlen]
              omega
            have hfaithful := hiff.mpr (.inr hbody)
            rw [hrun] at hfaithful
            obtain ⟨bs, hw', hdecodes⟩ := hfaithful
            exact ⟨bs, hw', .inr ⟨agg, hdecodes, hparse⟩⟩

/-- **Lengths**: a call of `write_message` is all or nothing exactly when the chunk stream id is
refused or the payload is below `2^24`; one of `send_aggregate` exactly when its messages take less
than `2^24` bytes in one body, or `2^32` and more, which is refused. -/
theorem faithful_iff {s : RtmpClient} {r : ChunkReader} (hsync : Synced s.writer r) :
    (∀ csid msg, Faithful s.writer r msg ((writeMessage csid msg).run s.writer) ↔
      ¬ (2 ≤ csid.toNat ∧ csid.toNat ≤ 65599) ∨ msg.payload.length < 2 ^ 24) ∧
    ∀ subs : List Message, (∀ sub ∈ subs, sub.payload.length < 2 ^ 24) →
      (FaithfulAggregate s r subs ((sendAggregate subs).run s) ↔
        bodyLength subs < 2 ^ 24 ∨ 2 ^ 32 ≤ bodyLength subs) :=
  ⟨faithful_writeMessage_iff hsync, fun _ hsubs => faithful_sendAggregate_iff hsync hsubs⟩

/-- A client right after its negotiation. -/
def fresh : RtmpClient :=
  Session.opened (.new []) .new ⟨1, .ofNat 10, "rtmp://localhost/live"⟩

/-- A short audio message, by itself and in an aggregate. -/
theorem faithful_short :
    let audio : Message := ⟨msgAudio, 1, 40, [0xAF, 0x01]⟩
    Faithful fresh.writer (.new []) audio ((writeMessage csidAudio audio).run fresh.writer) ∧
      FaithfulAggregate fresh (.new []) [audio] ((sendAggregate [audio]).run fresh) := by
  intro audio
  obtain ⟨hmessage, haggregate⟩ := faithful_iff (s := fresh) (synced_new [])
  refine ⟨(hmessage csidAudio audio).mpr (.inr (by decide)), (haggregate [audio] ?_).mpr (.inl ?_)⟩
  · decide
  · decide

/-- A video message of `2^24` bytes, and two of half that length in an aggregate. -/
theorem unfaithful_long :
    let long : Message := ⟨msgVideo, 1, 40, List.replicate (2 ^ 24) 0⟩
    let half : Message := ⟨msgVideo, 1, 40, List.replicate (2 ^ 23) 0⟩
    ¬ Faithful fresh.writer (.new []) long ((writeMessage csidVideo long).run fresh.writer) ∧
      ¬ FaithfulAggregate fresh (.new []) [half, half] ((sendAggregate [half, half]).run fresh) := by
  intro long half
  have hlong : long.payload.length = 2 ^ 24 := List.length_replicate
  have hhalf : half.payload.length = 2 ^ 23 := List.length_replicate
  constructor
  · rw [faithful_writeMessage_iff (w := fresh.writer) (synced_new []), hlong]
    rintro (hcsid | hlen)
    · exact hcsid ⟨by decide, by decide⟩
    · exact absurd hlen (by norm_num)
  · have hsubs : ∀ sub ∈ [half, half], sub.payload.length < 2 ^ 24 := by
      intro sub hsub
      rcases List.mem_pair.mp hsub with rfl | rfl <;> rw [hhalf] <;> norm_num
    rw [faithful_sendAggregate_iff (s := fresh) (synced_new []) hsubs, bodyLength_cons, bodyLength_cons,
      bodyLength_nil, hhalf]
    norm_num

end RtmpClient

end Rtmp
