import Rtmp.Amf.Codec
import Rtmp.Message.Control

/-!
The messages whose bodies are AMF values: data messages, which carry stream metadata, and commands.

* `Amf3.decodeMessageToAmf0`: the bodies of the AMF3 message types, on the AMF0 shape;
* `parseDataFrame`: the data-frame controls a publisher sends;
* `NetStreamCommand.parse`: the control commands of a stream; `CallCommand.parse`: remote calls.
-/

namespace Rtmp

/-! ### AMF3 bodies -/

namespace Amf3

/-- The marker that switches an AMF0 channel to AMF3 for one value. -/
def avmplusObjectMarker : UInt8 := 0x11

/-- The format selector of bodies that hold AMF0 values. -/
def formatSelectorAmf0 : UInt8 := 0

/-- Skip the switch to AMF3 in front of a value, if there is one. -/
def skipAvmplus : DecodeM Unit := do
  let unread ← Eff.onFst (Eff.gets id)
  if unread.head? = some avmplusObjectMarker then
    Eff.onFst (Eff.modify List.tail)
    if unread.tail = [] then
      Eff.fail (.invalidAmf0 "avmplus marker (0x11) at end of body with no AMF3 value")
    else pure ()
  else pure ()

/-- The next value of a body, if there is any input left. -/
def decodeDataNext (buf : List UInt8) : DecodeM (Option Amf3Value) := do
  let unread ← Eff.onFst (Eff.gets id)
  if unread.isEmpty then pure none
  else
    skipAvmplus
    let v ← Decoder.decode buf
    pure (some v)

/-- All values of a body on an AMF3 channel. -/
def decodeDataMessage (buf : List UInt8) : Except Error (List Amf3Value) :=
  ((Eff.collect (decodeDataNext buf) (buf.length + 1)).run (buf, {})).1

/-- The values of a body of one of the AMF3 message types, on the AMF0 shape. -/
def decodeMessageToAmf0 (buf : List UInt8) : Except Error (List Amf0Value) :=
  if buf.head? = some formatSelectorAmf0 then Amf.decodeAll buf.tail
  else (List.map Amf3Value.toAmf0) <$> decodeDataMessage buf

end Amf3

/-! ### Data frames -/

def setDataFrame : String := "@setDataFrame"
def clearDataFrame : String := "@clearDataFrame"

/-- A data message of the given values. -/
def dataMessage (streamId : UInt32) (values : List Amf0Value) : Message where
  msgTypeId := msgDataAmf0
  msgStreamId := streamId
  timestamp := 0
  payload := Amf.encodeItems values

def buildSetDataFrameNamed (streamId : UInt32) (handler : String) (value : Amf0Value) : Message :=
  dataMessage streamId [.string setDataFrame, .string handler, value]

def buildSetDataFrame (streamId : UInt32) (metadata : Amf0Value) : Message :=
  buildSetDataFrameNamed streamId "onMetaData" metadata

def buildClearDataFrame (streamId : UInt32) (handler : String) : Message :=
  dataMessage streamId [.string clearDataFrame, .string handler]

def buildDataMessage (streamId : UInt32) (handler : String) (value : Amf0Value) : Message :=
  dataMessage streamId [.string handler, value]

/-- A data-frame control of a publisher. -/
inductive DataFrameCommand where
  | set (handler : String) (value : Amf0Value)
  | clear (handler : String)
  deriving Repr

/-- The data-frame control a data message is, if it is one and has its arguments. -/
def parseDataFrame (values : List Amf0Value) : Option DataFrameCommand := do
  let name ← values[0]? >>= Amf0Value.asStr
  if name = setDataFrame then
    let handler ← values[1]? >>= Amf0Value.asStr
    let value ← values[2]?
    pure (.set handler value)
  else if name = clearDataFrame then
    let handler ← values[1]? >>= Amf0Value.asStr
    pure (.clear handler)
  else none

/-- The last object or ECMA array of a data message. -/
def metadataObject (values : List Amf0Value) : Option Amf0Value :=
  values.reverse.find? fun v => match v with
    | .object _ | .ecmaArray _ => true
    | _ => false

/-! ### Commands -/

/-- A command message of the given values. -/
def commandMessage (streamId : UInt32) (name : String) (transactionId : Binary64)
    (commandObject : Amf0Value) (args : List Amf0Value) : Message where
  msgTypeId := msgCommandAmf0
  msgStreamId := streamId
  timestamp := 0
  payload := Amf.encodeCommand name transactionId commandObject args

/-- The name of a command, if its first value is one. -/
def commandName (values : List Amf0Value) : Option String := values[0]? >>= Amf0Value.asStr

/-- The transaction id of a command, `default` if there is none. -/
def commandTransaction (default : Binary64) (values : List Amf0Value) : Binary64 :=
  (values[1]? >>= Amf0Value.asF64).getD default

/-- A remote procedure call; the procedure name is in place of a command name. -/
structure CallCommand where
  procedure : String
  transactionId : Binary64
  commandObject : Amf0Value
  arguments : List Amf0Value
  deriving Repr

/-- A command frame as a remote call, if it is long enough for one. -/
def CallCommand.parse (values : List Amf0Value) : Option CallCommand := do
  let procedure ← values[0]? >>= Amf0Value.asStr
  let transactionId ← values[1]? >>= Amf0Value.asF64
  pure
    { procedure, transactionId
      commandObject := (values[2]?).getD .null
      arguments := values.drop 3 }

/-- The message of a remote call. -/
def buildCall (procedure : String) (transactionId : Binary64) (commandObject : Amf0Value)
    (arguments : List Amf0Value) : Message :=
  commandMessage 0 procedure transactionId commandObject arguments

def CallCommand.toMessage (c : CallCommand) : Message :=
  buildCall c.procedure c.transactionId c.commandObject c.arguments

def buildCallResult (transactionId : Binary64) (commandObject response : Amf0Value) : Message :=
  commandMessage 0 "_result" transactionId commandObject [response]

def buildCallError (transactionId : Binary64) (commandObject response : Amf0Value) : Message :=
  commandMessage 0 "_error" transactionId commandObject [response]

/-- The command names the protocol uses itself. -/
def reservedCommandNames : List String :=
  ["connect", "close", "createStream", "play", "play2", "deleteStream", "closeStream",
    "receiveAudio", "receiveVideo", "publish", "seek", "pause", "_result", "_error", "onStatus",
    "releaseStream", "FCPublish", "FCUnpublish"]

def isReservedCommandName (name : String) : Bool := name ∈ reservedCommandNames

/-- A control command of a stream. -/
inductive NetStreamCommand where
  | play (streamName : String) (start duration : Option Binary64) (reset : Option Bool)
  | play2 (params : Amf0Value)
  | seek (milliseconds : Binary64)
  | pause (pause : Bool) (milliseconds : Binary64)
  | receiveAudio (flag : Bool)
  | receiveVideo (flag : Bool)
  deriving Repr

namespace NetStreamCommand

/-- A required argument, or the error that names it. -/
def require {α : Type} (arg : Option α) (text : String) : Except Error α :=
  match arg with
  | some a => .ok a
  | none => .error (.invalidCommand text)

/-- The control command a frame is, if its name is one; a missing argument is an error. -/
def parse (values : List Amf0Value) : Except Error (Option NetStreamCommand) :=
  match commandName values with
  | none => .ok none
  | some name =>
      let args := values.drop 3
      if name = "play" then do
        let streamName ← require (args[0]? >>= Amf0Value.asStr) "`play` missing stream name"
        pure (some (.play streamName (args[1]? >>= Amf0Value.asF64) (args[2]? >>= Amf0Value.asF64)
          (args[3]? >>= Amf0Value.asBool)))
      else if name = "play2" then do
        let params ← require args[0]? "`play2` missing parameters"
        pure (some (.play2 params))
      else if name = "seek" then do
        let milliseconds ← require (args[0]? >>= Amf0Value.asF64) "`seek` missing milliSeconds"
        pure (some (.seek milliseconds))
      else if name = "pause" then do
        let pause ← require (args[0]? >>= Amf0Value.asBool) "`pause` missing pause flag"
        let milliseconds ← require (args[1]? >>= Amf0Value.asF64) "`pause` missing milliSeconds"
        pure (some (.pause pause milliseconds))
      else if name = "receiveAudio" then do
        let flag ← require (args[0]? >>= Amf0Value.asBool) "`receiveAudio` missing bool flag"
        pure (some (.receiveAudio flag))
      else if name = "receiveVideo" then do
        let flag ← require (args[0]? >>= Amf0Value.asBool) "`receiveVideo` missing bool flag"
        pure (some (.receiveVideo flag))
      else pure none

/-- The name of a control command. -/
def commandName : NetStreamCommand → String
  | play .. => "play"
  | play2 _ => "play2"
  | seek _ => "seek"
  | pause .. => "pause"
  | receiveAudio _ => "receiveAudio"
  | receiveVideo _ => "receiveVideo"

/-- The arguments of a control command.  Optional ones are positional, so a later one brings the
defaults of the earlier ones with it. -/
def args : NetStreamCommand → List Amf0Value
  | play streamName start duration reset =>
      .string streamName
        :: ((if start.isSome ∨ duration.isSome ∨ reset.isSome then
              [Amf0Value.number (start.getD (.ofInt (-2)))] else [])
          ++ (if duration.isSome ∨ reset.isSome then
              [Amf0Value.number (duration.getD (.ofInt (-1)))] else [])
          ++ (reset.map Amf0Value.boolean).toList)
  | play2 params => [params]
  | seek milliseconds => [.number milliseconds]
  | pause flag milliseconds => [.boolean flag, .number milliseconds]
  | receiveAudio flag => [.boolean flag]
  | receiveVideo flag => [.boolean flag]

/-- The message of a control command on a message stream. -/
def toMessage (streamId : UInt32) (cmd : NetStreamCommand) : Message :=
  commandMessage streamId cmd.commandName (.ofNat 0) .null cmd.args

end NetStreamCommand

end Rtmp
