import Rtmp.Amf3.Encoder
import Rtmp.Message.Command

/-!
Shared-object messages: a header with the object's name, and events back to back, over either AMF.

`parseMessage` and `buildMessage` are generic in the values; `parseSharedObject` picks the format by
the message type and bridges AMF3 values onto AMF0.
-/

namespace Rtmp

/-- One event of a shared object, over values of type `V`. -/
inductive SoEvent (V : Type) where
  | use
  | release
  | requestChange (name : String) (value : V)
  | change (pairs : List (String × V))
  | success (name : String)
  | sendMessage (handler : String) (args : List V)
  | status (code level : String)
  | clear
  | remove (name : String)
  | requestRemove (name : String)
  | useSuccess
  | unknown (eventType : UInt8) (data : List UInt8)
  deriving Repr

structure SharedObjectMessage (V : Type) where
  name : String
  version : UInt32
  flags : UInt32
  events : List (SoEvent V)
  deriving Repr

def soErr (text : String) : Error := .protocolViolation ("shared object: " ++ text)

/-- A string with a 16-bit length and no marker. -/
def readBareString : Eff Error (List UInt8) String := do
  let len ← Scan.uintBe 2 (soErr "truncated bare-string length")
  Scan.utf8 len (fun _ => soErr "bare string overruns event data")
    fun _ => soErr "bare string is not valid UTF-8"

section Parse

variable {V : Type} (decodeValue : Eff Error (List UInt8) V)

/-- A name and its value, if any data is left. -/
def readPair : Eff Error (List UInt8) (Option (String × V)) := do
  let left ← Eff.gets List.length
  if left = 0 then pure none
  else
    let name ← readBareString
    let value ← decodeValue
    pure (some (name, value))

/-- A value, if any data is left. -/
def readArg : Eff Error (List UInt8) (Option V) := do
  let left ← Eff.gets List.length
  if left = 0 then pure none
  else
    let value ← decodeValue
    pure (some value)

/-- The name a success event acknowledges; an empty body is an empty name. -/
def readSuccessName : Eff Error (List UInt8) String := do
  let left ← Eff.gets List.length
  if left = 0 then pure "" else readBareString

/-- The body of one event; bytes after what its type needs are ignored. -/
def parseEvents (data : List UInt8) (eventType : UInt8) : Eff Error (List UInt8) (SoEvent V) :=
  match eventType with
  | 1 => pure .use
  | 2 => pure .release
  | 3 => do
      let name ← readBareString
      let value ← decodeValue
      pure (.requestChange name value)
  | 4 => do
      let pairs ← Eff.collect (readPair decodeValue) (data.length + 1)
      pure (.change pairs)
  | 5 => do
      let name ← readSuccessName
      pure (.success name)
  | 6 => do
      let handler ← readBareString
      let args ← Eff.collect (readArg decodeValue) (data.length + 1)
      pure (.sendMessage handler args)
  | 7 => do
      let code ← readBareString
      let level ← readBareString
      pure (.status code level)
  | 8 => pure .clear
  | 9 => do
      let name ← readBareString
      pure (.remove name)
  | 10 => do
      let name ← readBareString
      pure (.requestRemove name)
  | 11 => pure .useSuccess
  | other => pure (.unknown other data)

/-- The next event, if any data is left: its type, its length and its body. -/
def readEvent : Eff Error (List UInt8) (Option (SoEvent V)) := do
  let left ← Eff.gets List.length
  if left = 0 then pure none
  else
    let header ← Scan.bytes 5 fun _ => soErr "truncated event header"
    let dataLen := Bytes.ofBe (header.drop 1)
    let data ← Scan.bytes dataLen fun _ => soErr "event data overruns message body"
    let ev ← Eff.ofExcept ((parseEvents decodeValue data (header.getD 0 0)).run data).1
    pure (some ev)

/-- A whole body: the header and the events. -/
def parseMessage : Eff Error (List UInt8) (SharedObjectMessage V) := do
  let nameLen ← Scan.uintBe 2 (soErr "truncated header (name length)")
  let name ← Scan.utf8 nameLen (fun _ => soErr "SO name overruns message body")
    fun _ => soErr "SO name is not valid UTF-8"
  let header ← Scan.bytes 12 fun _ => soErr "truncated header (version/flags/reserved)"
  let left ← Eff.gets List.length
  let events ← Eff.collect (readEvent decodeValue) (left + 1)
  pure
    { name, events
      version := u32OfBe header
      flags := u32OfBe (header.drop 4) }

end Parse

/-- A string with a 16-bit length and no marker, if the length fits. -/
def writeBareString (s : String) : Except Error (List UInt8) :=
  if (Utf8.encode s).length ≤ 65535 then
    .ok (Bytes.toBe 2 (Utf8.encode s).length ++ Utf8.encode s)
  else .error (soErr "bare string longer than 65535 bytes")

/-- The type code an event is sent under. -/
def SoEvent.eventType {V : Type} : SoEvent V → UInt8
  | use => 1
  | release => 2
  | requestChange _ _ => 3
  | change _ => 4
  | success _ => 5
  | sendMessage _ _ => 6
  | status _ _ => 7
  | clear => 8
  | remove _ => 9
  | requestRemove _ => 10
  | useSuccess => 11
  | unknown eventType _ => eventType

section Build

variable {V : Type} (encodeValue : V → List UInt8)

/-- Names and their values, back to back. -/
def writePairs : List (String × V) → Except Error (List UInt8)
  | [] => .ok []
  | (name, value) :: pairs => do
      let bs ← writeBareString name
      let rest ← writePairs pairs
      pure (bs ++ encodeValue value ++ rest)

/-- The body of one event; an empty success name is an empty body. -/
def buildEvent : SoEvent V → Except Error (List UInt8)
  | .use | .release | .clear | .useSuccess => .ok []
  | .requestChange name value => do
      let bs ← writeBareString name
      pure (bs ++ encodeValue value)
  | .change pairs => writePairs encodeValue pairs
  | .success name => if name = "" then .ok [] else writeBareString name
  | .sendMessage handler args => do
      let bs ← writeBareString handler
      pure (bs ++ args.flatMap encodeValue)
  | .status code level => do
      let bs ← writeBareString code
      let bs' ← writeBareString level
      pure (bs ++ bs')
  | .remove name | .requestRemove name => writeBareString name
  | .unknown _ data => .ok data

/-- The events, each behind its type and its length. -/
def writeEvents : List (SoEvent V) → Except Error (List UInt8)
  | [] => .ok []
  | event :: events => do
      let data ← buildEvent encodeValue event
      if data.length < 2 ^ 32 then
        let rest ← writeEvents events
        pure (event.eventType :: Bytes.toBe 4 data.length ++ data ++ rest)
      else .error (soErr "event data longer than u32")

/-- A whole body; the reserved bytes are zero. -/
def buildMessage (msg : SharedObjectMessage V) : Except Error (List UInt8) := do
  let name ← writeBareString msg.name
  let events ← writeEvents encodeValue msg.events
  let header := Bytes.toBe 4 msg.version.toNat ++ Bytes.toBe 4 msg.flags.toNat ++ [0, 0, 0, 0]
  pure (name ++ header ++ events)

end Build

/-- An event with its values mapped. -/
def SoEvent.map {V W : Type} (f : V → W) : SoEvent V → SoEvent W
  | use => .use
  | release => .release
  | requestChange name value => .requestChange name (f value)
  | change pairs => .change (pairs.map fun p => (p.1, f p.2))
  | success name => .success name
  | sendMessage handler args => .sendMessage handler (args.map f)
  | status code level => .status code level
  | clear => .clear
  | remove name => .remove name
  | requestRemove name => .requestRemove name
  | useSuccess => .useSuccess
  | unknown eventType data => .unknown eventType data

/-- A message over AMF3 values on the AMF0 shape. -/
def SharedObjectMessage.toAmf0 (msg : SharedObjectMessage Amf3Value) :
    SharedObjectMessage Amf0Value :=
  { msg with events := msg.events.map (.map Amf3Value.toAmf0) }

/-- One AMF0 value from the front of the input, with a reference table of its own. -/
def Amf.decodeFront : Eff Error (List UInt8) Amf0Value where
  run rest := (((Amf.decodeAtDepth maxDecodeDepth).run (rest, [])).1,
    ((Amf.decodeAtDepth maxDecodeDepth).run (rest, [])).2.1)

def SharedObjectMessage.parseAmf0 (payload : List UInt8) :
    Except Error (SharedObjectMessage Amf0Value) :=
  ((parseMessage Amf.decodeFront).run payload).1

def SharedObjectMessage.parseAmf3 (payload : List UInt8) :
    Except Error (SharedObjectMessage Amf3Value) :=
  ((parseMessage Amf3.decode).run payload).1

def SharedObjectMessage.buildAmf0 (msg : SharedObjectMessage Amf0Value) :
    Except Error (List UInt8) :=
  buildMessage Amf.encode msg

def SharedObjectMessage.buildAmf3 (msg : SharedObjectMessage Amf3Value) :
    Except Error (List UInt8) :=
  buildMessage Amf3.encode msg

/-- The message, ready to be sent. -/
def SharedObjectMessage.toMessageAmf0 (msg : SharedObjectMessage Amf0Value) (msgStreamId : UInt32) :
    Except Error Message := do
  let payload ← msg.buildAmf0
  pure { msgTypeId := msgSharedObjectAmf0, msgStreamId, timestamp := 0, payload }

def SharedObjectMessage.toMessageAmf3 (msg : SharedObjectMessage Amf3Value) (msgStreamId : UInt32) :
    Except Error Message := do
  let payload ← msg.buildAmf3
  pure { msgTypeId := msgSharedObjectAmf3, msgStreamId, timestamp := 0, payload }

/-- A shared-object message of either format. -/
def parseSharedObject (msg : Message) : Except Error (SharedObjectMessage Amf0Value) :=
  if msg.msgTypeId = msgSharedObjectAmf0 then SharedObjectMessage.parseAmf0 msg.payload
  else if msg.msgTypeId = msgSharedObjectAmf3 then
    SharedObjectMessage.toAmf0 <$> SharedObjectMessage.parseAmf3 msg.payload
  else .error (soErr s!"message type {msg.msgTypeId} is not a shared-object message")

end Rtmp
