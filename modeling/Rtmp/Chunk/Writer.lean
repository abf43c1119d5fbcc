import Rtmp.Chunk.Message
import Rtmp.Lib.Bytes
import Rtmp.Lib.Eff

/-!
The chunk stream writer: a message is emitted as chunks under the densest header the history of
its chunk stream allows.

`ChunkWriter.writeMessage` picks the format and the extended timestamp once (`ChunkWriter.plan`)
and then runs the chunk loop.  The sink takes every byte it is given.
-/

namespace Rtmp

/-- What the writer keeps for one chunk stream id. -/
structure OutState where
  msgTypeId : UInt8 := 0
  msgStreamId : UInt32 := 0
  msgLength : UInt32 := 0
  timestamp : UInt32 := 0
  lastDelta : UInt32 := 0
  lastHadExtTs : Bool := false
  /-- Whether a message has gone out on this chunk stream. -/
  primed : Bool := false
  deriving DecidableEq, Repr

/-- The writing side of a chunk stream; `stream` is everything emitted so far. -/
structure ChunkWriter where
  stream : List UInt8 := []
  chunkSize : ChunkSize := .default
  states : UInt32 → Option OutState := fun _ => none

/-- A fallible operation of the writer. -/
abbrev WriterM := Eff Error ChunkWriter

/-- The header decision for one message: the format of its first chunk, whether that header needs
an extension, whether format 3 chunks repeat one, and the value the extension carries. -/
structure HeaderPlan where
  fmt : UInt8
  delta : UInt32
  extTsNeeded : Bool
  fmt3Ext : Bool
  extValue : UInt32
  deriving DecidableEq, Repr

namespace ChunkWriter

/-- A fresh writer. -/
def new : ChunkWriter := {}

/-- Override the current chunk size. -/
def setChunkSize (size : ℕ) (w : ChunkWriter) : ChunkWriter :=
  { w with chunkSize := .clamp size }

/-- The writer with one chunk stream's state replaced. -/
def setState (csid : UInt32) (st : OutState) (w : ChunkWriter) : ChunkWriter :=
  { w with states := Function.update w.states csid (some st) }

/-- A chunk stream's state, or the default one if it has none yet. -/
def outState (w : ChunkWriter) (csid : UInt32) : OutState := (w.states csid).getD {}

/-- The writer after the sink took `bs`. -/
def emit (bs : List UInt8) (w : ChunkWriter) : ChunkWriter := { w with stream := w.stream ++ bs }

/-- The sink takes all of `bs`. -/
def writeAll (bs : List UInt8) : WriterM Unit := Eff.modify (emit bs)

/-- The fmt and chunk stream id that open every chunk; ids that no form can carry are refused. -/
def writeBasicHeader (fmt : UInt8) (csid : UInt32) : WriterM Unit :=
  if 2 ≤ csid ∧ csid ≤ 63 then
    writeAll [(fmt <<< 6) ||| csid.toUInt8]
  else if 64 ≤ csid ∧ csid ≤ 319 then
    writeAll [fmt <<< 6, (csid - 64).toUInt8]
  else if 320 ≤ csid ∧ csid ≤ 65599 then
    let v := (csid - 64).toUInt16
    writeAll [(fmt <<< 6) ||| 1, (v &&& 0xFF).toUInt8, (v >>> 8).toUInt8]
  else
    Eff.fail (.protocolViolation s!"chunk stream id {csid} out of range")

/-- A 24-bit big-endian field; bits above the width are masked off. -/
def writeU24Be (v : UInt32) : WriterM Unit :=
  let v := v &&& 0x00FFFFFF
  writeAll [(v >>> 16).toUInt8, (v >>> 8).toUInt8, v.toUInt8]

/-- The most compact format the chunk stream's state allows for `msg`. -/
def pickFmt (st : OutState) (msg : Message) : UInt8 :=
  if !st.primed ∨ st.msgStreamId ≠ msg.msgStreamId ∨ msg.timestamp < st.timestamp then 0
  else if st.msgTypeId ≠ msg.msgTypeId ∨ st.msgLength ≠ UInt32.ofNat msg.payload.length then 1
  else if msg.timestamp - st.timestamp = st.lastDelta then 3
  else 2

/-- The rest of the header decision, once the format is known. -/
def planFor (st : OutState) (msg : Message) (fmt : UInt8) : HeaderPlan :=
  let delta := msg.timestamp - st.timestamp
  let extTsNeeded : Bool :=
    (fmt = 0 ∧ msg.timestamp ≥ 0x00FFFFFF) ∨ ((fmt = 1 ∨ fmt = 2) ∧ delta ≥ 0x00FFFFFF)
  { fmt
    delta
    extTsNeeded
    fmt3Ext := if fmt = 3 then st.lastHadExtTs else extTsNeeded
    extValue := if fmt = 0 then msg.timestamp else if fmt = 1 ∨ fmt = 2 then delta
      else st.lastDelta }

/-- The header decision of `write_message`, from the state of the chunk stream. -/
def plan (st : OutState) (msg : Message) : HeaderPlan := planFor st msg (pickFmt st msg)

/-- The message header of one chunk of `msg`. -/
def writeMessageHeader (p : HeaderPlan) (msg : Message) (chunkFmt : UInt8) : WriterM Unit := do
  let payloadLen := UInt32.ofNat msg.payload.length
  if chunkFmt = 0 then
    writeU24Be (if p.extTsNeeded then 0x00FFFFFF else msg.timestamp)
    writeU24Be payloadLen
    writeAll [msg.msgTypeId]
    writeAll (Bytes.toLe 4 msg.msgStreamId.toNat)
    writeAll (if p.extTsNeeded then Bytes.toBe 4 msg.timestamp.toNat else [])
  else if chunkFmt = 1 then
    writeU24Be (if p.extTsNeeded then 0x00FFFFFF else p.delta)
    writeU24Be payloadLen
    writeAll [msg.msgTypeId]
    writeAll (if p.extTsNeeded then Bytes.toBe 4 p.extValue.toNat else [])
  else if chunkFmt = 2 then
    writeU24Be (if p.extTsNeeded then 0x00FFFFFF else p.delta)
    writeAll (if p.extTsNeeded then Bytes.toBe 4 p.extValue.toNat else [])
  else
    writeAll (if p.fmt3Ext then Bytes.toBe 4 p.extValue.toNat else [])

/-- The chunk loop from `cursor` on, for at most `rounds` chunks.  It runs once even for an empty
payload. -/
def writeChunks (csid : UInt32) (p : HeaderPlan) (msg : Message) :
    (rounds : ℕ) → (cursor : ℕ) → (firstChunkDone : Bool) → WriterM Unit
  | 0, _, _ => pure ()
  | rounds + 1, cursor, firstChunkDone =>
      if cursor < msg.payload.length ∨ !firstChunkDone then do
        let chunkFmt := if !firstChunkDone then p.fmt else 3
        writeBasicHeader chunkFmt csid
        writeMessageHeader p msg chunkFmt
        let chunkSize ← Eff.gets fun w => w.chunkSize.val
        let stop := min (cursor + chunkSize) msg.payload.length
        writeAll ((msg.payload.drop cursor).take (stop - cursor))
        writeChunks csid p msg rounds stop true
      else
        pure ()

/-- The state `write_message` commits after the last chunk of `msg`. -/
def committed (p : HeaderPlan) (msg : Message) : OutState where
  msgTypeId := msg.msgTypeId
  msgStreamId := msg.msgStreamId
  msgLength := UInt32.ofNat msg.payload.length
  timestamp := msg.timestamp
  lastDelta := if p.fmt = 0 then msg.timestamp else p.delta
  lastHadExtTs := p.fmt3Ext
  primed := true

/-- Emit `msg` on `csid`, split into chunks.  Every round but the first takes at least one byte of
payload, so the rounds allowed here are never used up. -/
def writeMessage (csid : UInt32) (msg : Message) : WriterM Unit := do
  let st ← Eff.gets fun w => w.outState csid
  Eff.modify (setState csid st)
  let p := plan st msg
  writeChunks csid p msg (msg.payload.length + 1) 0 false
  Eff.modify (setState csid (committed p msg))

end ChunkWriter

end Rtmp
